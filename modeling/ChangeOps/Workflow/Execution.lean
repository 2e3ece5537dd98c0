import ChangeOps.Lib.Success
import ChangeOps.Workflow.Dag

/-!
# ChangeOps.Workflow — the execution of an approved plan

Snapshots, waves and verification, in a run of `resume_approval` that nobody disturbs. Its stores may
refuse at any action and its services may answer anything; then the run raises. The rules say what
holds if it goes on.

Tasks run side by side in three places: when the snapshots are taken, in a wave, and when the
systems are verified. `Besides` is what all of them do to the world, so that the rest of the run
finds its stores as it left them.
-/

namespace ChangeOps

open InMemoryChangeStateRepository WorkflowEngine

/-! ## Tasks side by side -/

section Besides

variable [Sha256] {E α β : Type} {allowed : RemoteEvent → Prop}

/-- The stored changes and workflows are as they were, and the notes that were added are allowed. -/
structure Besides (allowed : RemoteEvent → Prop) (w w' : CoordinatorWorld E) : Prop where
  stored : w'.changes.stored? = w.changes.stored?
  workflows : w'.rest.workflows = w.rest.workflows
  log : ∃ notes, w'.rest.log = w.rest.log ++ notes ∧ ∀ note ∈ notes, allowed note

theorem Besides.of_quiet {w w' : CoordinatorWorld E} (h : Quiet w w') : Besides allowed w w' :=
  ⟨h.stored, by rw [h.rest], [], by rw [h.rest, List.append_nil], List.forall_mem_nil _⟩

def besidesRely (E : Type) (allowed : RemoteEvent → Prop) : Rely (CoordinatorWorld E) where
  rel := Besides allowed
  refl w := .of_quiet (Quiet.refl w)
  trans {a b c} hab hbc := by
    obtain ⟨notes, hlog, hnotes⟩ := hab.log
    obtain ⟨notes', hlog', hnotes'⟩ := hbc.log
    refine ⟨hbc.stored.trans hab.stored, hbc.workflows.trans hab.workflows, notes ++ notes', ?_, ?_⟩
    · rw [hlog', hlog, List.append_assoc]
    · intro note hmem
      rcases List.mem_append.mp hmem with h | h
      · exact hnotes note h
      · exact hnotes' note h

/-- A program whose actions, and those of its environment, leave the stores alone. -/
abbrev Beside (allowed : RemoteEvent → Prop) (Q : Except Exn α → CoordinatorWorld E → Prop)
    (p : WorkflowEngine.Run E α) (s : CoordinatorWorld E) : Prop :=
  p.RG (besidesRely E allowed) (Besides allowed) Q s

/-- It does so from any state, and what it returns is as `P` says. -/
abbrev BesideReturns (allowed : RemoteEvent → Prop) (P : α → Prop) (p : WorkflowEngine.Run E α) :
    Prop :=
  ∀ s, Beside allowed (fun r _ => ∀ a, r = .ok a → P a) p s

/-- Whatever it returns. -/
abbrev ActsBeside (allowed : RemoteEvent → Prop) (p : WorkflowEngine.Run E α) : Prop :=
  BesideReturns allowed (fun _ => True) p

namespace BesideReturns

variable {P : α → Prop} {Q : β → Prop}

theorem ret {a : α} (h : P a) : BesideReturns (E := E) allowed P (.ret a) := by
  rintro s t _ _ ⟨⟩
  exact h

theorem raise (e : Exn) : BesideReturns (E := E) allowed P (.raise e) := by
  intro s t _ a ha
  cases ha

theorem ofExcept {r : Except Exn α} (h : ∀ a, r = .ok a → P a) :
    BesideReturns (E := E) allowed P (Prog.ofExcept r) :=
  fun _ => Prog.RG.ofExcept fun _ _ => h

theorem bind {p : WorkflowEngine.Run E α} {f : α → WorkflowEngine.Run E β}
    (hp : BesideReturns allowed P p) (hf : ∀ a, P a → BesideReturns allowed Q (f a)) :
    BesideReturns allowed Q (p.bind f) :=
  fun s => (hp s).bind (fun a t ha => hf a (ha a rfl) t) fun _ _ _ _ hok => by cases hok

theorem tryCatch {p : WorkflowEngine.Run E α} {f : Exn → WorkflowEngine.Run E α}
    (hp : BesideReturns allowed P p) (hf : ∀ e, BesideReturns allowed P (f e)) :
    BesideReturns allowed P (p.tryCatch f) :=
  fun s => (hp s).tryCatch (fun _ _ h => h) fun e t _ => hf e t

end BesideReturns

namespace ActsBeside

theorem atomic {f : CoordinatorWorld E → Except Exn α × CoordinatorWorld E}
    (hf : ∀ t, Besides allowed t (f t).2) : ActsBeside allowed (Prog.atomic f) :=
  fun _ => Prog.RG.atomic fun t _ => ⟨hf t, fun _ _ _ _ => trivial⟩

theorem quiet {f : CoordinatorWorld E → Except Exn α × CoordinatorWorld E}
    (hf : ∀ t, Quiet t (f t).2) : ActsBeside allowed (Prog.atomic f) :=
  atomic fun t => .of_quiet (hf t)

theorem bind {p : WorkflowEngine.Run E α} {f : α → WorkflowEngine.Run E β}
    (hp : ActsBeside allowed p) (hf : ∀ a, ActsBeside allowed (f a)) :
    ActsBeside allowed (p.bind f) :=
  BesideReturns.bind hp fun a _ => hf a

theorem requestId (engine : WorkflowEngine E) : ActsBeside allowed engine.requestId :=
  bind (quiet fun _ => ⟨rfl, rfl⟩) fun _ => .ret trivial

theorem recordAudit (engine : WorkflowEngine E) (record : WorkflowExecutionRecord) (entry : AuditNote) :
    ActsBeside allowed (engine.recordAudit record entry) := by
  refine bind (bind (quiet fun _ => ⟨rfl, rfl⟩) fun _ => bind (quiet fun _ => ⟨rfl, rfl⟩)
    fun _ => .ret trivial) fun event => quiet fun t => ⟨stored?_recordAudit event t.changes, rfl⟩

theorem note {event : RemoteEvent} (h : allowed event) : ActsBeside (E := E) allowed (note event) :=
  atomic fun _ => ⟨rfl, rfl, [event], rfl, fun _ hmem => List.mem_singleton.mp hmem ▸ h⟩

theorem now (rt : Runtime) : ActsBeside (E := E) allowed (now rt) := quiet fun _ => ⟨rfl, rfl⟩

theorem exchange (request : Exchange E α) {notes : Except RemoteError α → List RemoteEvent}
    (h : ∀ r, ∀ note ∈ notes r, allowed note) : ActsBeside allowed (exchange request notes) :=
  atomic fun t => ⟨rfl, rfl, notes (request t.changes t.rest.remote).1, rfl, h _⟩

/-- A program of a service writes its own state only. -/
theorem remotely (p : Prog (InMemoryChangeStateRepository × E) RemoteError α) :
    ActsBeside allowed (remotely p) := by
  induction p with
  | ret a => exact .ret trivial
  | raise e => exact .raise e.toExn
  | step u k ih => exact fun s t _ => ⟨⟨rfl, rfl, [], (List.append_nil _).symm, List.forall_mem_nil _⟩, ih _ _⟩
  | choice l r ihl ihr => exact fun s => ⟨ihl s, ihr s⟩

end ActsBeside

end Besides

/-! ## What the run sees of its workflow -/

section Sees

variable [Sha256] {E α β : Type} {engine : WorkflowEngine E} {record : WorkflowExecutionRecord}
  {change : ChangeRecord} {scene : Scene E} {s : CoordinatorWorld E}

/-- What the run sees, when nothing is asked of the stores; so any clock will do. -/
abbrev Sees (record : WorkflowExecutionRecord) (scene : Scene E) (w : CoordinatorWorld E) : Prop :=
  Stands False Demo.lawfulRuntime record scene w

/-- The systems have moved on, and there are more notes. -/
def Scene.later (scene : Scene E) (remote : E) (notes : List RemoteEvent) : Scene E :=
  { scene with remote := remote, log := scene.log ++ notes }

omit [Sha256] in
theorem Scene.later_later (scene : Scene E) (remote remote' : E) (notes notes' : List RemoteEvent) :
    (scene.later remote notes).later remote' notes' = scene.later remote' (notes ++ notes') := by
  simp [Scene.later]

omit [Sha256] in
theorem Scene.later_nil (scene : Scene E) : scene.later scene.remote [] = scene := by
  simp [Scene.later]

namespace Sees

/-- What happens beside the run moves the systems and leaves notes. -/
theorem besides {allowed : RemoteEvent → Prop} {t : CoordinatorWorld E} (h : Sees record scene s)
    (hst : Besides allowed s t) : ∃ notes, t.rest.log = s.rest.log ++ notes ∧
      (∀ note ∈ notes, allowed note) ∧ Sees record (scene.later t.rest.remote notes) t := by
  obtain ⟨notes, hlog, hnotes⟩ := hst.log
  refine ⟨notes, hlog, hnotes, False.elim, ?_, ?_, rfl, ?_, ?_⟩
  · rw [World.workflow?, hst.workflows]
    exact h.workflow
  · rw [hst.stored]
    exact h.change
  · rw [hlog, h.log]
    rfl
  · rw [hst.workflows]
    exact h.deadLetters

/-- Programs side by side, and what they leave. -/
theorem beside {allowed : RemoteEvent → Prop} {P : α → CoordinatorWorld E → Prop}
    {p : WorkflowEngine.Run E α} (h : Sees record scene s)
    (hp : Beside allowed (fun r t => ∀ a, r = .ok a → P a t) p s) :
    p.Yields (fun a t => P a t ∧ ∃ remote notes, t.rest.log = s.rest.log ++ notes ∧
      (∀ note ∈ notes, allowed note) ∧ Sees record (scene.later remote notes) t) s := by
  have halone : Prog.RG .alone (Besides allowed)
      (fun r t => (∀ a, r = .ok a → P a t) ∧ Besides allowed s t) p s :=
    (Prog.RG.path (fun _ _ => id) hp).weaken
      (fun a b (hab : a = b) => hab ▸ (besidesRely E allowed).refl a) (fun _ _ => id) fun _ _ => id
  exact .of_alone halone fun a t ht => ⟨ht.1 a rfl, t.rest.remote, h.besides ht.2⟩

theorem now (h : Sees record scene s) :
    (now engine.rt).Yields (fun _ t => Sees record scene t) s :=
  .of_alone (h.alone_now (G := fun _ _ => True) (Q := fun _ t => Sees record scene t) engine.rt
    (fun _ => trivial) fun _ ht _ => ht) fun _ _ ht => ht

theorem recordAudit {entry : AuditNote} (h : Sees record scene s) :
    (engine.recordAudit record entry).Yields (fun _ t => Sees record scene t) s :=
  .of_alone (h.alone_recordAudit (G := fun _ _ => True) (Q := fun _ t => Sees record scene t)
    False.elim False.elim (fun _ => trivial) (fun _ ht => ht) fun _ _ _ ht => ht) fun _ _ ht => ht

theorem getChange (h : Sees record scene s) (hchange : scene.change = some change) :
    (getChange record.tenantId record.changeId).Yields
      (fun read t => read = change ∧ Sees record scene t) s := by
  refine .of_alone (h.alone_getChange (G := fun _ _ => True)
    (Q := fun r t => r = .ok change ∧ t = s) hchange (fun _ => trivial) ⟨rfl, rfl⟩) ?_
  rintro read t ⟨hread, rfl⟩
  cases hread
  exact ⟨rfl, h⟩

theorem getWorkflow (h : Sees record scene s) :
    (getWorkflow record.tenantId record.changeId record.workflowExecutionId).Yields
      (fun read t => record = read ∧ Sees record scene t) s := by
  refine .atomic fun read hread => ?_
  have hstored : s.rest.workflows.stored? (record.tenantId, record.changeId,
      record.workflowExecutionId) = some record := h.workflow
  rw [InMemoryWorkflowRepository.get, hstored] at hread
  exact ⟨Except.ok.inj hread, h⟩

theorem requirePlan {plan : RemediationPlan} (h : Sees record scene s)
    (hplan : record.plan = some plan) :
    (requirePlan record).Yields (fun read t => plan = read ∧ Sees record scene t) s := by
  unfold WorkflowEngine.requirePlan
  rw [hplan]
  exact .ret ⟨rfl, h⟩

theorem updateRecord {updates : WorkflowFields → WorkflowFields} (h : Sees record scene s)
    (hkey : (updates record.toWorkflowFields).key = record.key) :
    (engine.updateRecord record updates).Yields (fun updated t =>
      UpdatedBy updates record updated ∧ Sees updated scene t) s :=
  .of_alone (h.alone_updateRecord (G := fun _ _ => True)
    (Q := fun r t => ∀ updated, r = .ok updated →
      UpdatedBy updates record updated ∧ Sees updated scene t)
    False.elim hkey False.elim (fun _ => trivial) (fun _ _ _ _ => trivial)
    (fun _ _ hupdated ht _ hok => Except.ok.inj hok ▸ ⟨hupdated, ht⟩)
    fun _ _ _ _ _ hok => by cases hok) fun updated t ht => ht updated rfl

theorem setRuntimeStatus {status : WorkflowRuntimeStatus} {code : Option String}
    (h : Sees record scene s) :
    (engine.setRuntimeStatus record status code).Yields (fun record' t =>
      Restated record status code record' ∧ Sees record' scene t) s :=
  .of_alone (h.alone_setRuntimeStatus (G := fun _ _ => True)
    (Q := fun r t => ∀ record', r = .ok record' →
      Restated record status code record' ∧ Sees record' scene t)
    False.elim False.elim False.elim (fun _ => trivial) (fun _ _ _ _ => trivial)
    (fun _ _ hrestated ht _ hok => Except.ok.inj hok ▸ ⟨hrestated, ht⟩)
    fun _ _ _ _ _ hok => by cases hok) fun record' t ht => ht record' rfl

theorem terminal {status : WorkflowRuntimeStatus} {code : Option String}
    (h : Sees record scene s) (hterminal : status.isTerminal = true)
    (hnew : record.status ≠ status) :
    (engine.terminal record status code).Yields (fun record' t =>
      Restated record status code record' ∧ Sees record' scene t) s :=
  .of_alone (h.alone_terminal (G := fun _ _ => True)
    (Q := fun r t => ∀ record', r = .ok record' →
      Restated record status code record' ∧ Sees record' scene t)
    False.elim False.elim hterminal hnew (fun _ => trivial) (fun _ _ _ _ => trivial)
    (fun _ _ hrestated ht _ hok => Except.ok.inj hok ▸ ⟨hrestated, ht⟩)
    fun _ _ _ _ _ hok => by cases hok) fun record' t ht => ht record' rfl

theorem transition {target : WorkflowState} (h : Sees record scene s)
    (hchange : scene.change = some change) :
    (engine.transition record target {}).Yields (fun moved t =>
      moved.status = target ∧ Sees record { scene with change := some moved } t) s :=
  .of_alone (h.alone_transition (G := fun _ _ => True)
    (Q := fun r t => ∀ moved, r = .ok moved →
      moved.status = target ∧ Sees record { scene with change := some moved } t)
    False.elim False.elim hchange (fun _ => trivial) (fun _ _ _ _ _ => trivial)
    (fun _ _ _ hmoved ht _ hok => Except.ok.inj hok ▸ ⟨hmoved.status, ht⟩) False.elim
    fun _ _ _ _ _ hok => by cases hok) fun moved t ht => ht moved rfl

theorem transitionFrom {sources : List WorkflowState} {target : WorkflowState}
    (h : Sees record scene s) (hchange : scene.change = some change) :
    (engine.transitionFrom sources record change target {}).Yields (fun moved t =>
      Sees record { scene with change := some moved } t) s := by
  unfold WorkflowEngine.transitionFrom
  split_ifs with hsource
  · exact (h.transition hchange).mono fun moved t ht => ht.2
  · exact .ret (hchange ▸ h)

end Sees

/-! ## Snapshots -/

def RemoteEvent.isRestore : RemoteEvent → Bool
  | .restoreCalled _ _ => true
  | _ => false

/-- A record that is being executed: none of its tasks has been compensated. -/
structure OpenRun (plan : RemediationPlan) (record : WorkflowExecutionRecord) : Prop where
  plan : record.plan = some plan
  distinct : record.stepIds.Nodup
  status : record.status = .EXECUTING
  tasks : ∀ task ∈ record.tasks, task.status = .PENDING ∨ task.status = .SUCCEEDED ∨ task.status = .FAILED

/-- The run has gone on with its execution, and has restored nothing. -/
structure Executing (plan : RemediationPlan) (key : WorkflowKey) (scene : Scene E)
    (record : WorkflowExecutionRecord) (w : CoordinatorWorld E) : Prop where
  key : record.key = key
  openRun : OpenRun plan record
  sees : ∃ remote notes, (∀ note ∈ notes, note.isRestore = false) ∧
    Sees record (scene.later remote notes) w

variable {plan : RemediationPlan}

theorem Executing.refl (h : Sees record scene s) (hopen : OpenRun plan record) :
    Executing plan record.key scene record s :=
  ⟨rfl, hopen, scene.remote, [], List.forall_mem_nil _, by rw [scene.later_nil]; exact h⟩

theorem Executing.trans {key : WorkflowKey} {record' : WorkflowExecutionRecord} {remote : E}
    {notes : List RemoteEvent} {t : CoordinatorWorld E}
    (hnotes : ∀ note ∈ notes, note.isRestore = false) (hkey : record.key = key)
    (h : Executing plan record.key (scene.later remote notes) record' t) :
    Executing plan key scene record' t := by
  obtain ⟨remote', notes', hnotes', hsees⟩ := h.sees
  rw [Scene.later_later] at hsees
  refine ⟨h.key.trans hkey, h.openRun, remote', notes ++ notes', fun note hmem => ?_, hsees⟩
  rcases List.mem_append.mp hmem with hmem | hmem
  · exact hnotes note hmem
  · exact hnotes' note hmem

/-- Storing tasks that are the record's, with other contents. -/
theorem OpenRun.updated {updates : WorkflowFields → WorkflowFields}
    {updated : WorkflowExecutionRecord} {tasks : List WorkflowTaskRecord} (h : OpenRun plan record)
    (hupdated : UpdatedBy updates record updated)
    (hplan : (updates record.toWorkflowFields).plan = record.plan)
    (hstatus : (updates record.toWorkflowFields).status = record.status)
    (htasks : (updates record.toWorkflowFields).tasks = tasks)
    (hsteps : tasks.map (·.stepId) = record.stepIds)
    (hopen : ∀ task ∈ tasks, task.status = .PENDING ∨ task.status = .SUCCEEDED ∨ task.status = .FAILED) :
    OpenRun plan updated := by
  have heq : updated.tasks = tasks := hupdated.tasks.trans htasks
  obtain ⟨updatedAt, hfields⟩ := hupdated.fields
  refine ⟨hupdated.plan.trans (hplan.trans h.plan), ?_, ?_, ?_⟩
  · rw [WorkflowFields.stepIds, heq, hsteps]
    exact h.distinct
  · rw [hfields]
    exact hstatus.trans h.status
  · rw [heq]
    exact hopen

theorem captureSnapshot_beside (task : WorkflowTaskRecord) :
    ActsBeside (fun event => event.isRestore = false) (engine.captureSnapshot record task) := by
  refine .bind (.requestId engine) fun requestId => .exchange _ fun r note hnote => ?_
  cases r with
  | ok snapshot =>
    rw [List.mem_singleton.mp hnote]
    rfl
  | error e => cases hnote

/-- A snapshot is stored with its task, which keeps its status. -/
theorem Sees.storeSnapshot (h : Sees record scene s) (d : Dict String WorkflowTaskRecord)
    (captured : WorkflowTaskRecord × Except Exn SnapshotRecord) :
    (engine.storeSnapshot record d captured).Yields (fun d' t => Sees record scene t ∧
      ∃ updated, updated.stepId = captured.1.stepId ∧ updated.status = captured.1.status ∧
        d' = d.set captured.1.stepId updated) s := by
  obtain ⟨task, result⟩ := captured
  unfold WorkflowEngine.storeSnapshot
  split
  · exact .raise _
  · exact .raise _
  · next task' snapshot hcaptured =>
    cases hcaptured
    refine .bind (Sees.now h) fun updatedAt t ht => ?_
    refine .bind (.ofExcept (P := fun updated t => Sees record scene t ∧
      updated.stepId = task.stepId ∧ updated.status = task.status) fun updated hok => ?_) ?_
    · have hfields := TaskFields.modelValidate_of_ok hok
      exact ⟨ht, by rw [hfields], by rw [hfields]⟩
    · rintro updated t ⟨ht, hstep, hstatus⟩
      refine .bind (Sees.recordAudit ht) fun _ t ht => .ret ?_
      exact ⟨ht, updated, hstep, hstatus, rfl⟩

/-- `by_step` after the snapshots: each entry has the step and the status of its task. -/
def SameStatus (task task' : WorkflowTaskRecord) : Prop :=
  task'.stepId = task.stepId ∧ task'.status = task.status

/-- **The rule of `_capture_snapshots`**, whatever the sandboxes answer. -/
theorem Sees.captureSnapshots (h : Sees record scene s) (hopen : OpenRun plan record) :
    (engine.captureSnapshots record).Yields
      (fun record' t => Executing plan record.key scene record' t) s := by
  unfold WorkflowEngine.captureSnapshots
  dsimp only
  split_ifs with hmissing
  · exact .ret (.refl h hopen)
  have hgather : Beside (fun event => event.isRestore = false) (fun r t => ∀ a, r = .ok a → True)
      (Prog.gather ((record.tasks.filter fun task => task.snapshotId.isNone).map
        (engine.captureSnapshot record))) s :=
    (Prog.RG.gather (fun _ _ => id) fun task _ => captureSnapshot_beside task s).mono
      fun _ _ _ _ _ => trivial
  refine .bind (Sees.beside h hgather) ?_
  rintro snapshots t ⟨-, remote, notes, -, hnotes, ht⟩
  refine .bind (.foldlP (I := fun d _ t => Sees record (scene.later remote notes) t ∧
    TasksFrom SameStatus record.tasks d) ?_ ⟨ht, tasksFrom_byStep fun task => ⟨rfl, rfl⟩⟩) ?_
  · rintro d before captured after t hsplit ⟨ht, hd⟩
    have hmem : captured.1 ∈ record.tasks := by
      have hzip : captured ∈ (record.tasks.filter fun task => task.snapshotId.isNone).zip snapshots := by
        rw [hsplit]
        exact List.mem_append_right _ List.mem_cons_self
      exact (List.mem_filter.mp (List.of_mem_zip hzip).1).1
    refine (Sees.storeSnapshot ht d captured).mono ?_
    rintro d' t ⟨ht, updated, hstep, hstatus, rfl⟩
    exact ⟨ht, hd.set hmem ⟨hstep, hstatus⟩⟩
  · rintro d t ⟨ht, hd⟩
    have hmerge := hd.merge (fun task => ⟨rfl, rfl⟩) hopen.distinct
    refine (Sees.updateRecord ht rfl).mono ?_
    rintro updated t ⟨hupdated, ht⟩
    refine ⟨hupdated.key, hopen.updated hupdated rfl rfl rfl ?_ ?_, remote, notes, hnotes, ht⟩
    · exact stepIds_of_forall₂ hmerge fun task task' hsame => hsame.1
    · intro task' hmem'
      obtain ⟨task, hmem, -, hstatus⟩ := exists_of_mem_forall₂ hmerge hmem'
      rw [hstatus]
      exact hopen.tasks task hmem

/-! ## Waves -/

/-- What a decided task returns with. -/
structure Decided (task task' : WorkflowTaskRecord) : Prop where
  stepId : task'.stepId = task.stepId
  status : task'.status = .SUCCEEDED ∨ task'.status = .FAILED

section Tasks

variable {task : WorkflowTaskRecord} {step : RemediationStep} {approvalId : String}

theorem attemptTask_beside (attempt : Nat) :
    BesideReturns (fun event => event.isRestore = false) (Decided task)
      (engine.attemptTask record plan approvalId task step attempt) := by
  unfold WorkflowEngine.attemptTask
  refine .bind (ActsBeside.now engine.rt) fun requestedAt _ => ?_
  refine .bind (ActsBeside.requestId engine) fun requestId _ => ?_
  refine .bind (ActsBeside.note rfl) fun _ _ => ?_
  refine .bind (.ofExcept fun _ _ => trivial) fun intent _ => ?_
  refine .bind (ActsBeside.remotely _) fun result _ => ?_
  refine .bind (ActsBeside.recordAudit engine record _) fun _ _ => ?_
  refine .bind (ActsBeside.now engine.rt) fun updatedAt _ => .ofExcept fun task' hok => ?_
  have hfields := TaskFields.modelValidate_of_ok hok
  exact ⟨by rw [hfields], .inl (by rw [hfields])⟩

theorem failTask_beside (attempt : Nat) (code : String) :
    BesideReturns (fun event => event.isRestore = false) (Decided task)
      (engine.failTask record task step attempt code) := by
  refine .bind (ActsBeside.recordAudit engine record _) fun _ _ => ?_
  refine .bind (ActsBeside.now engine.rt) fun updatedAt _ => .ofExcept fun task' hok => ?_
  have hfields := TaskFields.modelValidate_of_ok hok
  exact ⟨by rw [hfields], .inr (by rw [hfields])⟩

theorem executeAttempts_beside (retries attempt : Nat) :
    BesideReturns (fun event => event.isRestore = false) (Decided task)
      (engine.executeAttempts record plan approvalId task step retries attempt) := by
  induction retries generalizing attempt with
  | zero =>
    refine .tryCatch (attemptTask_beside attempt) fun e => ?_
    split
    · exact failTask_beside attempt _
    · exact .raise _
  | succ retries ih =>
    refine .tryCatch (attemptTask_beside attempt) fun e => ?_
    split
    · refine .bind (ActsBeside.note rfl) fun _ _ => ?_
      refine .bind (ActsBeside.recordAudit engine record _) fun _ _ => ?_
      exact .bind (.ofExcept fun _ _ => trivial) fun _ _ => ih (attempt + 1)
    · exact failTask_beside attempt _
    · exact .raise _

theorem executeTask_beside (engine : WorkflowEngine E) (record : WorkflowExecutionRecord)
    (task : WorkflowTaskRecord) (step : RemediationStep) :
    BesideReturns (fun event => event.isRestore = false) (Decided task)
      (engine.executeTask record task step) := by
  unfold WorkflowEngine.executeTask WorkflowEngine.requirePlan
  cases record.plan with
  | none => exact .raise _
  | some plan =>
    refine BesideReturns.bind (P := fun _ => True) (.ret trivial) fun plan _ => ?_
    cases record.approvalId with
    | none => exact .raise _
    | some approvalId => exact executeAttempts_beside _ _

theorem stepById_beside (plan : RemediationPlan) (stepId : String) :
    ActsBeside (E := E) (fun event => event.isRestore = false) (stepById plan stepId) := by
  unfold stepById
  split
  · exact .ret trivial
  · exact .raise _

end Tasks

/-- The waves have ended: a task has failed, or none is pending. -/
def WavesEnded (record : WorkflowExecutionRecord) : Prop :=
  (record.tasks.any fun task => task.status = .FAILED) = true ∨
    ∀ task ∈ record.tasks, task.status ≠ .PENDING

/-- What the rest of the waves comes to. -/
abbrev WavesYield (plan : RemediationPlan) (record : WorkflowExecutionRecord) (scene : Scene E)
    (p : WorkflowEngine.Run E WorkflowExecutionRecord) (s : CoordinatorWorld E) : Prop :=
  p.Yields (fun final t => Executing plan record.key scene final t ∧ WavesEnded final) s

/-- **The rule of a wave**, whatever the gateway answers. -/
theorem Sees.executeWave {d : Dict String WorkflowTaskRecord}
    {next : WorkflowExecutionRecord → Dict String WorkflowTaskRecord →
      WorkflowEngine.Run E WorkflowExecutionRecord}
    (h : Sees record scene s) (hopen : OpenRun plan record) (hd : TasksByStep record.tasks d)
    (hnext : ∀ {record' d' scene' t}, Sees record' scene' t → OpenRun plan record' →
      TasksByStep record'.tasks d' → WavesYield plan record' scene' (next record' d') t) :
    WavesYield plan record scene (engine.executeWave plan next record d) s := by
  unfold WorkflowEngine.executeWave
  dsimp only
  split_ifs with hpending hready
  · refine .ret ⟨.refl h hopen, .inr fun task hmem hstatus => ?_⟩
    have hwith := hd.mem_withStatus.mpr ⟨hmem, hstatus⟩
    rw [hpending] at hwith
    cases hwith
  · exact .raise _
  · have hgather : Beside (fun event => event.isRestore = false)
        (fun r _ => ∀ results, r = .ok results → List.Forall₂ Decided (readyTasks plan d) results)
        (Prog.gatherAll ((readyTasks plan d).map fun task => do
          let step ← stepById plan task.stepId
          engine.executeTask record task step)) s := by
      have htask (task : WorkflowTaskRecord) := BesideReturns.bind
        (stepById_beside plan task.stepId) (fun step _ =>
          executeTask_beside engine record task step) s
      refine (Prog.RG.gatherAll (fun _ _ => id) fun task _ => htask task).mono ?_
      exact fun r t hr results hok => (hr results hok).imp fun task task' hdecided => hdecided task' rfl
    refine .bind (Sees.beside h hgather) ?_
    rintro results t ⟨hresults, remote, notes, -, hnotes, ht⟩
    have hmerge := forall₂_mergeTasks hd (nodup_readyTasks hd plan) hopen.distinct
      (fun task hmem => (hd.mem_readyTasks.mp hmem).1) hresults fun _ _ hdecided => hdecided.stepId
    have hsteps := stepIds_of_forall₂ hmerge fun task task' hcases => by
      rcases hcases with ⟨-, rfl⟩ | ⟨-, -, hdecided⟩
      · rfl
      · exact hdecided.stepId
    have htasks := tasksByStep_mergeTasks hd fun result hmem => by
      obtain ⟨task, hready, hdecided⟩ := exists_of_mem_forall₂ hresults hmem
      exact ⟨task, (hd.mem_readyTasks.mp hready).1, hdecided.stepId.symm⟩
    refine .bind (Sees.updateRecord ht rfl) ?_
    rintro updated t ⟨hupdated, ht⟩
    have hopen' : OpenRun plan updated := by
      refine hopen.updated hupdated rfl rfl rfl hsteps fun task' hmem' => ?_
      obtain ⟨task, hmem, ⟨-, rfl⟩ | ⟨-, -, hdecided⟩⟩ := exists_of_mem_forall₂ hmerge hmem'
      · exact hopen.tasks _ hmem
      · exact .inr hdecided.status
    have hstored : updated.tasks = mergeTasks record.tasks
        (results.foldl (fun d task => d.set task.stepId task) d) := hupdated.tasks
    split_ifs with hfailed
    · -- a failed task of this wave is among the stored ones
      refine .ret ⟨⟨hupdated.key, hopen', remote, notes, hnotes, ht⟩, .inl ?_⟩
      obtain ⟨task, hmem, hstatus⟩ := List.any_eq_true.mp hfailed
      refine List.any_eq_true.mpr ⟨task, ?_, hstatus⟩
      rw [hstored]
      have hids := stepIds_of_forall₂ hresults fun _ _ hdecided => hdecided.stepId
      refine mem_mergeTasks (hids ▸ nodup_readyTasks hd plan) hmem ?_
      obtain ⟨origin, hready, hdecided⟩ := exists_of_mem_forall₂ hresults hmem
      exact ⟨origin, (hd.mem_readyTasks.mp hready).1, hdecided.stepId.symm⟩
    · rw [← hstored] at htasks
      exact (hnext ht hopen' htasks).mono fun final t hfinal =>
        ⟨.trans hnotes hupdated.key hfinal.1, hfinal.2⟩

/-- **The waves**, by induction on how many may still come. -/
theorem Sees.executeWaves {d : Dict String WorkflowTaskRecord} (h : Sees record scene s) (waves : Nat)
    (hopen : OpenRun plan record) (hd : TasksByStep record.tasks d) :
    WavesYield plan record scene (engine.executeWaves plan waves record d) s := by
  induction waves generalizing record d scene s with
  | zero => exact Sees.executeWave h hopen hd fun _ _ _ => .raise _
  | succ waves ih => exact Sees.executeWave h hopen hd ih

/-- **The rule of `_execute_dag`.** -/
theorem Sees.executeDag (h : Sees record scene s) (hopen : OpenRun plan record) :
    WavesYield plan record scene (engine.executeDag record) s := by
  unfold WorkflowEngine.executeDag
  refine .bind (Sees.requirePlan h hopen.plan) ?_
  rintro _ t ⟨rfl, ht⟩
  exact Sees.executeWaves ht _ hopen (tasksByStep_byStep hopen.distinct)

/-! ## Verification -/

/-- The note was taken after the log was as given. -/
def NotedSince (log : List RemoteEvent) (note : RemoteEvent) (w : CoordinatorWorld E) : Prop :=
  ∃ notes, w.rest.log = log ++ notes ∧ note ∈ notes

theorem Besides.notedSince {allowed : RemoteEvent → Prop} {log : List RemoteEvent}
    {note : RemoteEvent} {w w' : CoordinatorWorld E} (h : Besides allowed w w')
    (hnoted : NotedSince log note w) : NotedSince log note w' := by
  obtain ⟨notes, hlog, hmem⟩ := hnoted
  obtain ⟨more, hmore, -⟩ := h.log
  exact ⟨notes ++ more, by rw [hmore, hlog, List.append_assoc], List.mem_append_left _ hmem⟩

theorem Besides.isPrefix {allowed : RemoteEvent → Prop} {log : List RemoteEvent}
    {w w' : CoordinatorWorld E} (h : Besides allowed w w') (hsent : log <+: w.rest.log) :
    log <+: w'.rest.log := by
  obtain ⟨more, hmore, -⟩ := h.log
  rw [hmore]
  exact hsent.trans (List.prefix_append _ _)

section Verification

variable {task : WorkflowTaskRecord} {log : List RemoteEvent}

/-- A verification that passes has been noted since. -/
abbrev VerifiesBeside (record : WorkflowExecutionRecord) (task : WorkflowTaskRecord)
    (log : List RemoteEvent) (p : WorkflowEngine.Run E Bool) : Prop :=
  ∀ s, log <+: s.rest.log → Beside (fun event => event.isRestore = false)
    (fun r t => r = .ok true → NotedSince log (.verified record.key task.stepId true) t) p s

theorem attemptVerify_beside (expected : String) :
    VerifiesBeside record task log (engine.attemptVerify record task expected) := by
  intro s hsent
  unfold WorkflowEngine.attemptVerify
  refine Prog.RG.bind (Prog.RG.path (fun _ _ => id) (ActsBeside.requestId engine s))
    (fun requestId t ht => ?_) fun _ _ _ hok => by cases hok
  have hsent := Besides.isPrefix ht.2 hsent
  have hexchange : ∀ notes : Except RemoteError VerificationResult → List RemoteEvent,
      (∀ result, notes (.ok result) = [.verified record.key task.stepId result.passed]) →
      (∀ e, notes (.error e) = []) →
      Beside (fun event => event.isRestore = false)
        (fun r t => ∀ result : VerificationResult, r = .ok result → result.passed = true →
          NotedSince log (.verified record.key task.stepId true) t)
        (exchange (engine.services.verify task.systemId record.tenantId expected requestId) notes)
        t := by
    intro notes hverified hfailed
    refine Prog.RG.atomic fun t ht => ?_
    obtain ⟨before, hbefore⟩ := Besides.isPrefix ht hsent
    dsimp only
    cases (engine.services.verify task.systemId record.tenantId expected requestId
      t.changes t.rest.remote).1 with
    | error e =>
      rw [hfailed]
      exact ⟨⟨rfl, rfl, _, rfl, List.forall_mem_nil _⟩, fun t' _ result hok => by cases hok⟩
    | ok answer =>
      rw [hverified]
      refine ⟨⟨rfl, rfl, _, rfl, fun note hnote => ?_⟩, fun t' ht' result hok hpassed => ?_⟩
      · rw [List.mem_singleton.mp hnote]
        rfl
      · cases hok
        refine Besides.notedSince ht' ⟨before ++ [.verified record.key task.stepId answer.passed], ?_, ?_⟩
        · show t.rest.log ++ _ = _
          rw [← hbefore, List.append_assoc]
        · rw [hpassed]
          exact List.mem_append_right _ (List.mem_singleton_self _)
  refine Prog.RG.bind (hexchange _ (fun _ => rfl) fun _ => rfl) (fun result t hnoted => ?_)
    fun _ _ _ hok => by cases hok
  refine Prog.RG.bind (Prog.RG.path (fun _ _ => id) (ActsBeside.recordAudit engine record _ t))
    (fun _ t' ht' => ?_) fun _ _ _ hok => by cases hok
  refine Prog.RG.ret fun t'' ht'' hpassed => ?_
  exact Besides.notedSince ht'' (ht'.2.notedSince (hnoted result rfl (Except.ok.inj hpassed)))

theorem verifyAttempts_beside (expected : String) (retries attempt : Nat) :
    VerifiesBeside record task log (engine.verifyAttempts record task expected retries attempt) := by
  induction retries generalizing attempt with
  | zero => exact attemptVerify_beside expected
  | succ retries ih =>
    intro s hsent
    refine Prog.RG.tryCatch (Prog.RG.path (fun _ _ => id) (attemptVerify_beside expected s hsent))
      (fun _ _ h => h.1) fun e t ht => ?_
    split
    · refine Prog.RG.bind (Prog.RG.path (fun _ _ => id)
        (BesideReturns.ofExcept (P := fun _ => True) (fun _ _ => trivial) t))
        (fun _ u hu => ?_) fun _ _ _ hok => by cases hok
      exact ih (attempt + 1) u (Besides.isPrefix hu.2 (Besides.isPrefix ht.2 hsent))
    · exact Prog.RG.raise fun _ _ hok => by cases hok

theorem verifyTask_beside (engine : WorkflowEngine E) (record : WorkflowExecutionRecord)
    (plan : RemediationPlan) (task : WorkflowTaskRecord) :
    VerifiesBeside record task log (engine.verifyTask record plan task) := by
  intro s hsent
  unfold WorkflowEngine.verifyTask
  refine Prog.RG.bind (Prog.RG.path (fun _ _ => id) (stepById_beside plan task.stepId s))
    (fun step t ht => ?_) fun _ _ _ hok => by cases hok
  split
  · exact verifyAttempts_beside _ _ _ t (Besides.isPrefix ht.2 hsent)
  · exact Prog.RG.raise fun _ _ hok => by cases hok

omit [Sha256] in
/-- No objection means that every verification has passed. -/
theorem passed_of_verificationError {tasks : List WorkflowTaskRecord}
    {results : List (Except Exn Bool)} {P : WorkflowTaskRecord → Except Exn Bool → Prop}
    (h : List.Forall₂ P tasks results) (hnone : verificationError (tasks.zip results) = none) :
    ∀ task ∈ tasks, P task (.ok true) := by
  induction h with
  | nil => exact fun _ hmem => by cases hmem
  | @cons task result tasks results hhead _ ih =>
    rw [List.zip_cons_cons] at hnone
    unfold verificationError at hnone
    split at hnone
    · contradiction
    · cases hnone
    · cases hnone
    · cases hnone
    · next heq =>
      cases heq
      intro other hmem
      rcases List.mem_cons.mp hmem with rfl | hmem
      · exact hhead
      · exact ih hnone other hmem

/-- **The rule of `_verify`**: without an objection, every task has a passed verification. -/
theorem Sees.verify (h : Sees record scene s) (hplan : record.plan = some plan) :
    (engine.verify record).Yields (fun error t => ∃ remote notes,
      (∀ note ∈ notes, note.isRestore = false) ∧ Sees record (scene.later remote notes) t ∧
      (error = none → ∀ task ∈ record.tasks, .verified record.key task.stepId true ∈ notes)) s := by
  unfold WorkflowEngine.verify
  refine .bind (Sees.requirePlan h hplan) ?_
  rintro _ s ⟨rfl, h⟩
  have hgather : Beside (fun event => event.isRestore = false)
      (fun r t => ∀ results, r = .ok results → List.Forall₂ (fun task result => result = .ok true →
        NotedSince s.rest.log (.verified record.key task.stepId true) t) record.tasks results)
      (Prog.gather (record.tasks.map (engine.verifyTask record plan))) s := by
    refine (Prog.RG.gather (fun _ _ => id) fun task _ =>
      verifyTask_beside engine record plan task s (List.prefix_refl _)).mono ?_
    rintro r t ⟨results, rfl, hresults⟩ _ ⟨⟩
    exact hresults
  refine .bind (Sees.beside h hgather) ?_
  rintro results t ⟨hresults, remote, notes, hlog, hnotes, ht⟩
  refine .ret ⟨remote, notes, hnotes, ht, fun hnone task hmem => ?_⟩
  obtain ⟨more, hmore, hverified⟩ := passed_of_verificationError hresults hnone task hmem rfl
  rw [hlog] at hmore
  rw [List.append_cancel_left hmore]
  exact hverified

end Verification

end Sees

end ChangeOps
