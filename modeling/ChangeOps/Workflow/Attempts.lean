import ChangeOps.Lib.Apart
import ChangeOps.Workflow.Alone

/-!
# ChangeOps.Workflow — the attempts of a task, among the tasks of its wave

The tasks of a wave run side by side. What a task must know while the others act is that nobody
else calls the gateway for its step, and that nobody else uses the audit id that it has drawn. Both
are about who has acted, so the tasks keep a journal under their step ids (`WaveInv`, `TaskActs`,
`asideRely`).

`task_executeAttempts` is the rule of the retry loop: as many calls as the count it stores, or there
was trouble, an intent that does not validate or a delay that does not fit a float.
-/

namespace ChangeOps

open InMemoryChangeStateRepository WorkflowEngine

variable [Sha256] {E α β : Type}

/-! ## Answers of the gateway -/

/-- The calls of `gateway.execute` for a step, so far. -/
def callsOf (key : WorkflowKey) (stepId : String) (log : List RemoteEvent) : Nat :=
  log.count (.executeCalled key stepId)

/-- The transient errors that were answered for a step, so far, with another attempt allowed. -/
def transientsOf (key : WorkflowKey) (stepId : String) (log : List RemoteEvent) : Nat :=
  log.count (.transientAnswer key stepId)

/-- The calls for a step and the transient errors among their answers. -/
def trafficOf (key : WorkflowKey) (stepId : String) (log : List RemoteEvent) : Nat × Nat :=
  (callsOf key stepId log, transientsOf key stepId log)

/-- What the execution of a step notes. -/
def AboutStep (key : WorkflowKey) (stepId : String) (event : RemoteEvent) : Prop :=
  event = .executeCalled key stepId ∨ event = .transientAnswer key stepId

/-- The journal of a wave. -/
abbrev WaveState (E : Type) := Journaled String (CoordinatorWorld E)

/-- The `n`-th identifier was drawn by this task. -/
def DrawnBy (stepId : String) (n : Nat) (journal : List (Entry String (CoordinatorWorld E))) : Prop :=
  ∃ entry ∈ journal, entry.call = stepId ∧ entry.before.uuid = n ∧ entry.after.uuid = n + 1

theorem drawnBy_append {stepId : String} {n : Nat}
    {journal : List (Entry String (CoordinatorWorld E))} {entry : Entry String (CoordinatorWorld E)} :
    DrawnBy stepId n (journal ++ [entry]) ↔ DrawnBy stepId n journal ∨
      (entry.call = stepId ∧ entry.before.uuid = n ∧ entry.after.uuid = n + 1) := by
  unfold DrawnBy
  simp only [List.mem_append, List.mem_singleton, or_and_right, exists_or, exists_eq_left]

/-- What holds all through a wave: the record is the stored one, and the stores are healthy. -/
structure WaveInv (rt : LawfulRuntime) (record : WorkflowExecutionRecord) (w : WaveState E) :
    Prop where
  healthy : Healthy rt w.1
  workflow : w.1.workflow? record.key = some record
  change : w.1.changes.stored? (record.tenantId, record.changeId) ≠ none
  drawn : ∀ {stepId n}, DrawnBy stepId n w.2 → n < w.1.uuid
  once : ∀ {stepId stepId' n}, DrawnBy stepId n w.2 → DrawnBy stepId' n w.2 → stepId = stepId'

/-- An action of the task of a step: it writes audit events only, under ids of its own, and calls the
gateway for its own step only. -/
structure TaskActs (rt : LawfulRuntime) (record : WorkflowExecutionRecord) (stepId : String)
    (w w' : WaveState E) : Prop where
  entry : w'.2 = w.2 ++ [⟨stepId, w.1, w'.1⟩]
  persisted : w.1.workflow? record.key = some record
  workflows : w'.1.rest.workflows = w.1.rest.workflows
  stored : w'.1.changes.stored? = w.1.changes.stored?
  tick : w.1.tick ≤ w'.1.tick
  uuid : w'.1.uuid = w.1.uuid ∨ w'.1.uuid = w.1.uuid + 1
  audit : ∀ key, w'.1.changes.audit.get? key = w.1.changes.audit.get? key ∨
    ∃ n, key.2 = "audit_" ++ rt.uuid4 n ∧ DrawnBy stepId n w.2
  log : w'.1.rest.log = w.1.rest.log ∨
    ∃ event, AboutStep record.key stepId event ∧ w'.1.rest.log = w.1.rest.log ++ [event]

/-- What the other tasks of the wave leave alone. -/
structure Aside (rt : LawfulRuntime) (record : WorkflowExecutionRecord) (stepId : String)
    (w w' : WaveState E) : Prop where
  inv : WaveInv rt record w'
  traffic : trafficOf record.key stepId w'.1.rest.log = trafficOf record.key stepId w.1.rest.log
  own : ∀ n, DrawnBy stepId n w.2 → DrawnBy stepId n w'.2
  held : ∀ n, DrawnBy stepId n w.2 → ∀ tenantId,
    w'.1.changes.audit.get? (tenantId, "audit_" ++ rt.uuid4 n) =
      w.1.changes.audit.get? (tenantId, "audit_" ++ rt.uuid4 n)

def asideRely (E : Type) (rt : LawfulRuntime) (record : WorkflowExecutionRecord) (stepId : String) :
    Rely (WaveState E) where
  rel w w' := WaveInv rt record w → Aside rt record stepId w w'
  refl w h := ⟨h, rfl, fun _ h => h, fun _ _ _ => rfl⟩
  trans {a b c} hab hbc h := by
    have h₁ := hab h
    have h₂ := hbc h₁.inv
    refine ⟨h₂.inv, h₂.traffic.trans h₁.traffic, fun n hn => h₂.own n (h₁.own n hn), ?_⟩
    intro n hn tenantId
    exact (h₂.held n (h₁.own n hn) tenantId).trans (h₁.held n hn tenantId)

section Actions

variable {rt : LawfulRuntime} {record : WorkflowExecutionRecord} {stepId : String}
  {w w' : WaveState E}

theorem TaskActs.drawnBy (h : TaskActs rt record stepId w w') {name : String} {n : Nat} :
    DrawnBy name n w'.2 ↔ DrawnBy name n w.2 ∨
      (stepId = name ∧ w.1.uuid = n ∧ w'.1.uuid = n + 1) := by
  rw [h.entry]
  exact drawnBy_append

theorem TaskActs.inv (h : TaskActs rt record stepId w w') (hw : WaveInv rt record w) :
    WaveInv rt record w' := by
  have huuid : w.1.uuid ≤ w'.1.uuid := by
    rcases h.uuid with heq | heq <;> omega
  have hclock : rt.clock w.1.tick ≤ rt.clock w'.1.tick := rt.clock_mono h.tick
  have hworkflow (key : WorkflowKey) : w'.1.workflow? key = w.1.workflow? key := by
    rw [World.workflow?, h.workflows]
  refine ⟨⟨⟨?clock, ?fresh⟩, ?workflows⟩, ?workflow, ?change, ?drawn, ?once⟩
  case clock =>
    intro key change hget
    rw [h.stored] at hget
    exact (hw.healthy.clock hget).trans hclock
  case fresh =>
    intro n hn tenantId
    rcases h.audit (tenantId, "audit_" ++ rt.uuid4 n) with heq | ⟨m, hid, hdrawn⟩
    · rw [heq]
      exact hw.healthy.fresh n (huuid.trans hn) tenantId
    · -- the id has been drawn before
      obtain rfl := rt.uuid4_injective (Healthy.auditId_injective hid)
      have hlt := hw.drawn hdrawn
      omega
  case workflows =>
    intro key stored hget
    rw [hworkflow] at hget
    exact (hw.healthy.workflows hget).trans hclock
  case workflow =>
    rw [hworkflow]
    exact hw.workflow
  case change =>
    rw [h.stored]
    exact hw.change
  case drawn =>
    intro name n hdrawn
    rcases h.drawnBy.mp hdrawn with hold | ⟨-, -, hafter⟩
    · exact Nat.lt_of_lt_of_le (hw.drawn hold) huuid
    · omega
  case once =>
    intro name name' n hname hname'
    rcases h.drawnBy.mp hname with hold | ⟨hcall, hbefore, -⟩
    · rcases h.drawnBy.mp hname' with hold' | ⟨-, hbefore', -⟩
      · exact hw.once hold hold'
      · have hlt := hw.drawn hold
        omega
    · rcases h.drawnBy.mp hname' with hold' | ⟨hcall', -, -⟩
      · have hlt := hw.drawn hold'
        omega
      · exact hcall.symm.trans hcall'

/-- A task with this traffic of its step; it may hold an audit id that it has drawn. -/
structure Attempting (rt : LawfulRuntime) (record : WorkflowExecutionRecord) (stepId : String)
    (held : Option Nat) (traffic : Nat × Nat) (w : WaveState E) : Prop where
  inv : WaveInv rt record w
  traffic_eq : trafficOf record.key stepId w.1.rest.log = traffic
  holds : ∀ n, held = some n → DrawnBy stepId n w.2 ∧
    ∀ tenantId, w.1.changes.audit.get? (tenantId, "audit_" ++ rt.uuid4 n) = none

variable {held held' : Option Nat} {traffic traffic' : Nat × Nat}

theorem Attempting.stable (h : Attempting rt record stepId held traffic w)
    (hw : (asideRely E rt record stepId).rel w w') :
    Attempting rt record stepId held traffic w' := by
  have haside := hw h.inv
  refine ⟨haside.inv, haside.traffic.trans h.traffic_eq, fun n hn => ?_⟩
  obtain ⟨hdrawn, hnone⟩ := h.holds n hn
  exact ⟨haside.own n hdrawn, fun tenantId => (haside.held n hdrawn tenantId).trans (hnone tenantId)⟩

/-- What a task knows after such an action. -/
theorem Attempting.next (h : Attempting rt record stepId held traffic w)
    (hact : TaskActs rt record stepId w w') (hchanges : w'.1.changes = w.1.changes)
    (htraffic : trafficOf record.key stepId w'.1.rest.log = traffic') :
    Attempting rt record stepId held traffic' w' := by
  refine ⟨hact.inv h.inv, htraffic, fun n hn => ?_⟩
  obtain ⟨hdrawn, hnone⟩ := h.holds n hn
  refine ⟨hact.drawnBy.mpr (.inl hdrawn), fun tenantId => ?_⟩
  rw [hchanges]
  exact hnone tenantId

variable {engine : WorkflowEngine E} (hrt : engine.rt = rt.toRuntime)

include hrt

end Actions

/-! ## Attempts -/

/-- What the execution makes of a task. -/
structure Executed (task task' : WorkflowTaskRecord) : Prop where
  stepId : task'.stepId = task.stepId
  systemId : task'.systemId = task.systemId
  snapshotId : task'.snapshotId = task.snapshotId
  snapshotHash : task'.snapshotHash = task.snapshotHash
  decided : task'.status = .SUCCEEDED ∨ task'.status = .FAILED

/-- The id of the intent for a step fits. -/
def IntentFits (workflowExecutionId : String) (step : RemediationStep) : Prop :=
  ∃ intentId, nonEmptyStr ("intent_" ++ workflowExecutionId ++ "_" ++ step.stepId) = .ok intentId

section Attempts

variable {rt : LawfulRuntime} {record : WorkflowExecutionRecord} {traffic : Nat × Nat} {w : WaveState E}
  {engine : WorkflowEngine E} {plan : RemediationPlan} {approvalId : String}
  {task : WorkflowTaskRecord} {step : RemediationStep}

variable (hrt : engine.rt = rt.toRuntime)

include hrt

end Attempts

end ChangeOps
