import ChangeOps.Workflow.ProcessRules
import ChangeOps.Workflow.Terminal
import ChangeOps.Lib.Schedule

/-!
# ChangeOps.Workflow — snapshots before writes

Any number of deliveries and approval callbacks, repeated and interleaved at will: when the
tool gateway is called for a workflow, the stored record holds a snapshot for every task, every
one of them was taken before the first call, and a snapshot that is stored stays.

A run that has lost a race may well take snapshots after another run has written. It cannot
store them: its record is stale, and `update` compares versions.
-/

namespace ChangeOps

/-- What the coordinator is sent. -/
inductive Message where
  | event (event : ChangeEvent)
  | callback (callback : ApprovalCallbackRequest)

section Runs

variable [Sha256] {E : Type}

def WorkflowEngine.receive (engine : WorkflowEngine E) :
    Message → WorkflowEngine.Run E WorkflowExecutionRecord
  | .event event => engine.processEvent event
  | .callback callback => engine.resumeApproval callback

/-- The messages are handled in any order, and the services may act by themselves. -/
def anyMessage : Actor Message → CoordinatorWorld E → CoordinatorWorld E → Prop
  | .env, w, w' => Noted [] w w'
  | _, _, _ => True

/-- No snapshot has been taken yet. -/
structure Unsnapshotted (w : CoordinatorWorld E) : Prop where
  log : w.rest.log = []
  distinct : DistinctTasks w
  tasks : ∀ key record, w.workflow? key = some record →
    ∀ task ∈ record.tasks, task.snapshotId = none

/-- If the gateway has been called for a workflow, the stored record holds a snapshot id and a
hash for every task, captured before the first of these calls. -/
def CallsCovered (w : CoordinatorWorld E) : Prop :=
  ∀ key step, .executeCalled key step ∈ w.rest.log → ∃ record, w.workflow? key = some record ∧
    ∀ task ∈ record.tasks, ∃ snapshotId snapshotHash, task.snapshotId = some snapshotId ∧
      task.snapshotHash = some snapshotHash ∧
      CapturedFirst w.rest.log key task.stepId snapshotId snapshotHash

/-- A snapshot that is stored for a task in `w` is stored for it in `w'`. -/
def SnapshotsStay (w w' : CoordinatorWorld E) : Prop :=
  ∀ key record, w.workflow? key = some record → ∃ record', w'.workflow? key = some record' ∧
    ∀ task ∈ record.tasks, task.snapshotId.isSome →
      (∃ task' ∈ record'.tasks, task'.stepId = task.stepId) ∧
      ∀ task' ∈ record'.tasks, task'.stepId = task.stepId → SameSnapshot task task'

theorem Unsnapshotted.consistent {w : CoordinatorWorld E} (h : Unsnapshotted w) :
    Consistent none w := by
  refine ⟨h.distinct, ⟨?_, ?_⟩, fun _ hmem => nomatch hmem⟩
  · intro key record hstored task hmem snapshotId snapshotHash hid
    rw [h.tasks key record hstored task hmem] at hid
    cases hid
  · intro key step hmem
    rw [h.log] at hmem
    cases hmem

theorem SnapshotsFirst.callsCovered {w : CoordinatorWorld E} (h : SnapshotsFirst w) :
    CallsCovered w := by
  intro key step hcalled
  obtain ⟨record, hstored, -, hall⟩ := h.called key step hcalled
  refine ⟨record, hstored, fun task hmem => ?_⟩
  obtain ⟨snapshotId, hid⟩ := Option.isSome_iff_exists.mp (hall task hmem)
  obtain ⟨snapshotHash, hhash⟩ := Option.isSome_iff_exists.mp
    (task.snapshot_paired ▸ hall task hmem)
  exact ⟨snapshotId, snapshotHash, hid, hhash,
    h.captured key record hstored task hmem snapshotId snapshotHash hid hhash⟩

theorem snapshotsStay_of_evolves {w w' : CoordinatorWorld E} (hc : Consistent none w)
    (h : Evolves none w w') : SnapshotsStay w w' := by
  intro key record hstored
  obtain ⟨record', hstored', hext⟩ := h.workflows key record hstored
  refine ⟨record', hstored', fun task hmem hsome => ?_⟩
  -- a record with a task has a plan, so its tasks are kept one by one
  have hplan : record.plan.isSome := by
    have hmatches := record.plan_matches
    cases hplan : record.plan with
    | some plan => rfl
    | none =>
      rw [hplan] at hmatches
      rw [show record.tasks = [] from hmatches] at hmem
      cases hmem
  have hnodup := (h.consistent hc).tasks key record' hstored'
  obtain ⟨task', hmem', hkeeps⟩ := exists_of_forall₂_mem (hext.tasks hplan) hmem
  refine ⟨⟨task', hmem', hkeeps.1⟩, fun other hother hstep => ?_⟩
  rw [List.inj_on_of_nodup_map hnodup hother hmem' (hstep.trans hkeeps.1.symm)]
  exact ⟨hkeeps.1, hkeeps.2 hsome⟩

/-- The runs of the coordinator keep to the rules. -/
theorem receive_sound (engine : WorkflowEngine E) :
    Pool.Sound engine.receive anyMessage (evolves none)
      (fun _ => WorksWithin none fun _ _ => True) (fun _ _ _ => True) (Consistent none) where
  guarantee _ _ _ _ _ _ h := h.evolves
  environment _ _ h := evolves_of_noted h fun _ _ hmem => nomatch hmem
  invariant _ _ h he := he.consistent h
  triple message s s' h _ := by
    cases message with
    | event event => exact Prog.RG.start (works_processEvent (fun _ hmem => nomatch hmem) h)
    | callback callback =>
      refine Prog.RG.start (Prog.RG.weaken (works_resumeApproval h) (fun _ _ => id) ?_ fun _ _ => id)
      exact fun _ _ hworks => ⟨hworks.evolves, fun _ hmem => nomatch hmem⟩

/-- **Snapshots come first.** In every state that deliveries and callbacks reach together, the
gateway calls made so far are covered by snapshots; and in every later state the snapshots that
are stored are still there. A call is noted when it is made, so the first state that notes it
is the state of the call. -/
theorem snapshots_precede_calls (engine : WorkflowEngine E) {w : CoordinatorWorld E}
    (hw : Unsnapshotted w)
    {P P' : Pool Message (CoordinatorWorld E) Exn WorkflowExecutionRecord}
    (hreach : Pool.Reach engine.receive anyMessage (.idle w) P)
    (hlater : Pool.Reach engine.receive anyMessage P P') :
    CallsCovered P.state ∧ SnapshotsStay P.state P'.state := by
  have hholds := (receive_sound engine).holds hw.consistent hreach
  exact ⟨hholds.inv.snapshots.callsCovered,
    snapshotsStay_of_evolves hholds.inv (Pool.sound (receive_sound engine) hholds hlater).2⟩

end Runs

namespace Demo

/-- Services that answer every request. -/
def healthyServices : Services Unit where
  analyze _ _ _ _ e := (.ok ⟨plan, planHash⟩, e)
  createApproval _ _ _ _ _ e := (.ok (), e)
  execute _ _ _ := .ret ⟨"exec_001", "sha256:out", false⟩
  snapshot _ _ _ _ e := (.ok ⟨"snap_001", sha256Digest .null⟩, e)
  restore _ _ _ _ _ e := (.ok (), e)
  verify _ _ _ _ _ e := (.ok ⟨true, .null⟩, e)
  configuration _ _ _ _ e := (.ok .null, e)

def healthyEngine : WorkflowEngine Unit := ⟨healthyServices, retryPolicy, runtime⟩

def waitingRecord : WorkflowExecutionRecord := record .WAITING_APPROVAL none rfl

/-- The world at the approval pause. -/
def waiting : CoordinatorWorld Unit := worldWith waitingRecord .AWAITING_APPROVAL

/-- The approval arrives, and its run makes a number of moves. -/
def approved (moves : Nat) : Pool Message (CoordinatorWorld Unit) Exn WorkflowExecutionRecord :=
  .play healthyEngine.receive (.idle waiting)
    (.start (.callback (callback .APPROVED)) :: List.replicate moves (.move 0 false))

theorem unsnapshotted_waiting : Unsnapshotted waiting := by
  have hstored : ∀ key stored, waiting.workflow? key = some stored → stored = waitingRecord := by
    intro key stored h
    rcases InMemoryWorkflowRepository.empty.stored?_put_cases h with ⟨-, rfl⟩ | ⟨-, h⟩
    · rfl
    · cases h
  refine ⟨rfl, ?_, ?_⟩
  · intro key stored h
    rw [hstored key stored h]
    decide
  · intro key stored h task hmem
    rw [hstored key stored h] at hmem
    cases List.mem_singleton.mp hmem
    rfl

end Demo

open Demo in
/-- The demonstration run calls the gateway, and it is covered. -/
theorem snapshots_precede_calls_approved :
    .executeCalled waitingRecord.key "step_crm" ∈ (approved 30).state.rest.log ∧
      CallsCovered (approved 30).state ∧ SnapshotsStay (approved 30).state (approved 30).state := by
  refine ⟨by decide +kernel, snapshots_precede_calls healthyEngine unsnapshotted_waiting ?_ (.refl _)⟩
  exact Pool.reach_play (fun _ _ _ => trivial) _ (fun _ _ _ _ => trivial) _

end ChangeOps
