import ChangeOps.Workflow.Delivery

/-!
# ChangeOps.Workflow — the intake of an event

Pub/Sub delivers an event at least once, and a coordinator can stop between any two of its
actions. `Deliveries` is what that makes of a world: any number of deliveries of one event, each
cut off anywhere, and in between whatever the rest of the system does elsewhere.

* `Intake` holds between any two actions, and `Headway` says what a later action leaves as it is;
* `Intake.redelivered` is the recovery: what one more delivery, undisturbed and answered, makes of
  whatever the others have left behind.
-/

namespace ChangeOps

open InMemoryChangeStateRepository WorkflowEngine

section Keeps

variable [Sha256] {E : Type}

/-! ## What is stored about an event -/

/-- The approval that the workflow of an event asks for. -/
def approvalIdOf (event : ChangeEvent) : String := "approval_" ++ deriveWorkflowId event

/-- The statuses of a record before an approval is decided. -/
def intakeStatuses : List WorkflowRuntimeStatus :=
  [.RECEIVED, .ANALYZING, .WAITING_APPROVAL, .FAILED, .DEAD_LETTERED]

/-- The states of a change before an approval is decided. -/
def intakeStates : List WorkflowState :=
  [.RECEIVED, .SCREENING, .ANALYZING, .PLAN_READY, .AWAITING_APPROVAL, .BLOCKED]

/-- How far the record of an event and its change have come. -/
structure Stage (event : ChangeEvent) (record : WorkflowExecutionRecord)
    (change : Option WorkflowState) (log : List RemoteEvent) : Prop where
  status : record.status ∈ intakeStatuses
  state : ∀ status ∈ change, status ∈ intakeStates
  received : record.status = .RECEIVED → ∀ status ∈ change, status = .RECEIVED
  planned : record.plan.isSome →
    record.approvalId = some (approvalIdOf event) ∧ record.approvalExpiresAt ≠ none
  unplanned : record.plan = none → change ≠ some .PLAN_READY ∧ change ≠ some .AWAITING_APPROVAL
  waiting : record.status = .WAITING_APPROVAL → change = some .AWAITING_APPROVAL ∧
    record.plan.isSome ∧ .approvalRequested (approvalIdOf event) ∈ log
  failed : record.status = .FAILED → change = some .BLOCKED

/-- **The invariant of the intake**: a change has a workflow, the two are at one stage, and a
dead letter is the letter of a workflow that was given up for the same reason. -/
structure Intake (event : ChangeEvent) (w : CoordinatorWorld E) : Prop where
  opened : w.workflow? (workflowKey event) = none → w.status? event = none
  stage : ∀ record, w.workflow? (workflowKey event) = some record →
    Stage event record (w.status? event) w.rest.log
  lettered : ∀ letter, w.letter? event = some letter → ∃ record,
    w.workflow? (workflowKey event) = some record ∧ record.status = .DEAD_LETTERED ∧
      record.lastErrorCode = some letter.errorCode

/-- What stays when deliveries go on: the workflow and the change once a delivery returns early,
the plan and the approval once they are bound, the dead letter once it is stored. -/
structure Headway (event : ChangeEvent) (w w' : CoordinatorWorld E) : Prop where
  settled : ∀ record, w.workflow? (workflowKey event) = some record →
    returnsEarly record.status = true →
      w'.workflow? (workflowKey event) = some record ∧ w'.status? event = w.status? event
  plan : ∀ record plan, w.workflow? (workflowKey event) = some record → record.plan = some plan →
    ∃ record', w'.workflow? (workflowKey event) = some record' ∧ record'.plan = some plan ∧
      record'.approvalId = record.approvalId
  letter : ∀ letter, w.letter? event = some letter → w'.letter? event = some letter

/-- Nothing about the event has changed; there may be more notes. -/
structure Elsewhere (event : ChangeEvent) (w w' : CoordinatorWorld E) : Prop where
  workflow : w'.workflow? (workflowKey event) = w.workflow? (workflowKey event)
  change : w'.status? event = w.status? event
  letter : w'.letter? event = w.letter? event
  log : w.rest.log ⊆ w'.rest.log

/-- Nothing is stored about the event. -/
structure Unknown (event : ChangeEvent) (w : CoordinatorWorld E) : Prop where
  workflow : w.workflow? (workflowKey event) = none
  change : w.status? event = none
  letter : w.letter? event = none

/-- Deliveries of an event, one after another, each of which may stop anywhere; the coordinator
and its collaborators may be others each time. -/
inductive Deliveries (event : ChangeEvent) : CoordinatorWorld E → CoordinatorWorld E → Prop where
  | refl (w : CoordinatorWorld E) : Deliveries event w w
  | elsewhere {w t t' : CoordinatorWorld E} (before : Deliveries event w t)
      (h : Elsewhere event t t') : Deliveries event w t'
  | delivery {w t t' : CoordinatorWorld E} (before : Deliveries event w t)
      (engine : WorkflowEngine E) (rest : WorkflowEngine.Run E WorkflowExecutionRecord)
      (h : Prog.Reaches (engine.processEvent event) t rest t') : Deliveries event w t'

/-! ## What one action keeps -/

variable {event : ChangeEvent} {w w' t t' : CoordinatorWorld E} {record record' : WorkflowExecutionRecord}

theorem status?_of_changes (h : w'.changes.stored? = w.changes.stored?) :
    w'.status? event = w.status? event := by
  rw [World.status?, h, World.status?]

theorem letter?_of_workflows (h : w'.rest.workflows = w.rest.workflows) :
    w'.letter? event = w.letter? event := by
  rw [World.letter?, h, World.letter?]

theorem workflow?_of_workflows {key : WorkflowKey} (h : w'.rest.workflows = w.rest.workflows) :
    w'.workflow? key = w.workflow? key := by
  rw [World.workflow?, h, World.workflow?]

theorem workflow?_put (hkey : record.key = workflowKey event) :
    (w.putWorkflow record).workflow? (workflowKey event) = some record := by
  rw [← hkey]
  exact w.workflow?_putWorkflow_self record

theorem status?_commit {change : ChangeRecord} {auditEvent : AuditEvent}
    (hkey : (change.tenantId, change.changeId) = changeKey event) :
    (w.commit change auditEvent).status? event = some change.status := by
  rw [World.status?, ← hkey, World.stored?_commit_self]
  rfl

namespace Elsewhere

theorem of_quiet (h : Quiet w w') : Elsewhere event w w' where
  workflow := workflow?_of_workflows (by rw [h.rest])
  change := status?_of_changes h.stored
  letter := letter?_of_workflows (by rw [h.rest])
  log := by rw [h.rest]; exact List.Subset.refl _

theorem of_noted (hchanges : w'.changes.stored? = w.changes.stored?)
    (hworkflows : w'.rest.workflows = w.rest.workflows) (hlog : w.rest.log ⊆ w'.rest.log) :
    Elsewhere event w w' where
  workflow := workflow?_of_workflows hworkflows
  change := status?_of_changes hchanges
  letter := letter?_of_workflows hworkflows
  log := hlog

theorem headway (h : Elsewhere event w w') : Headway event w w' where
  settled _ hstored _ := ⟨h.workflow.trans hstored, h.change⟩
  plan record _ hstored hplan := ⟨record, h.workflow.trans hstored, hplan, rfl⟩
  letter _ hletter := h.letter.trans hletter

theorem intake (h : Elsewhere event w w') (hw : Intake event w) : Intake event w' := by
  obtain ⟨hopened, hstage, hlettered⟩ := hw
  refine ⟨fun hnone => ?_, fun record hstored => ?_, fun letter hletter => ?_⟩
  · rw [h.change]
    exact hopened (h.workflow.symm.trans hnone)
  · have hold := hstage record (h.workflow.symm.trans hstored)
    rw [h.change]
    refine { hold with waiting := fun hwaiting => ?_ }
    obtain ⟨hawaiting, hplan, hasked⟩ := hold.waiting hwaiting
    exact ⟨hawaiting, hplan, h.log hasked⟩
  · obtain ⟨record, hstored, hdead⟩ := hlettered letter (h.letter.symm.trans hletter)
    exact ⟨record, h.workflow.trans hstored, hdead⟩

end Elsewhere

namespace Headway

theorem refl (w : CoordinatorWorld E) : Headway event w w where
  settled _ hstored _ := ⟨hstored, rfl⟩
  plan record _ hstored hplan := ⟨record, hstored, hplan, rfl⟩
  letter _ hletter := hletter

theorem trans (h : Headway event w t) (h' : Headway event t t') : Headway event w t' where
  settled record hstored hearly := by
    obtain ⟨hmiddle, hchange⟩ := h.settled record hstored hearly
    obtain ⟨hlast, hchange'⟩ := h'.settled record hmiddle hearly
    exact ⟨hlast, hchange'.trans hchange⟩
  plan record plan hstored hplan := by
    obtain ⟨middle, hmiddle, hmiddlePlan, hmiddleId⟩ := h.plan record plan hstored hplan
    obtain ⟨last, hlast, hlastPlan, hlastId⟩ := h'.plan middle plan hmiddle hmiddlePlan
    exact ⟨last, hlast, hlastPlan, hlastId.trans hmiddleId⟩
  letter letter hletter := h'.letter letter (h.letter letter hletter)

/-- The active record is replaced; its plan, if it has one, is kept. -/
theorem putWorkflow (hacting : Acting event record w) (hkey : record'.key = workflowKey event)
    (hplan : ∀ plan, record.plan = some plan →
      record'.plan = some plan ∧ record'.approvalId = record.approvalId) :
    Headway event w (w.putWorkflow record') where
  settled stored hstored hearly := by
    obtain rfl := Option.some.inj (hacting.stored.symm.trans hstored)
    rw [hacting.active] at hearly
    cases hearly
  plan stored plan hstored hstoredPlan := by
    obtain rfl := Option.some.inj (hacting.stored.symm.trans hstored)
    exact ⟨record', workflow?_put hkey, hplan plan hstoredPlan⟩
  letter _ hletter := hletter

/-- The change of an active record is replaced. -/
theorem ofChange (hacting : Acting event record w) (hrest : w'.rest = w.rest) :
    Headway event w w' where
  settled stored hstored hearly := by
    obtain rfl := Option.some.inj (hacting.stored.symm.trans hstored)
    rw [hacting.active] at hearly
    cases hearly
  plan stored plan hstored hplan :=
    ⟨stored, (workflow?_of_workflows (by rw [hrest])).trans hstored, hplan, rfl⟩
  letter _ hletter := (letter?_of_workflows (by rw [hrest])).trans hletter

end Headway

theorem Acting.key (h : Acting event record w) : record.key = workflowKey event :=
  InMemoryWorkflowRepository.key_of_stored h.stored

/-- A record with other status, code or times is the same work. -/
theorem Restated.next_key {status : WorkflowRuntimeStatus} {code : Option String}
    (h : Restated record status code record') (hacting : Acting event record w) :
    record'.key = workflowKey event :=
  h.key.trans hacting.key

theorem Restated.headway {status : WorkflowRuntimeStatus} {code : Option String}
    (h : Restated record status code record') (hacting : Acting event record w) :
    Headway event w (w.putWorkflow record') := by
  refine .putWorkflow hacting (h.next_key hacting) fun plan hplan => ?_
  exact ⟨h.plan.trans hplan, h.approvalId⟩

/-- **One action of a delivery takes nothing back.** -/
theorem DeliveryStep.headway {engine : WorkflowEngine E} (h : DeliveryStep engine event w w') :
    Headway event w w' := by
  cases h with
  | quiet hquiet => exact (Elsewhere.of_quiet hquiet).headway
  | asked hchanges hworkflows hlog =>
    exact (Elsewhere.of_noted hchanges hworkflows (by rw [hlog]; exact List.Subset.refl _)).headway
  | requested record plan approvalId change hacting hplan hid hstored hstatus hchanges hworkflows hlog =>
    exact (Elsewhere.of_noted hchanges hworkflows
      (by rw [hlog]; exact List.subset_append_left _ _)).headway
  | opened record hnone hkey hstatus hplan hw =>
    subst hw
    refine ⟨fun stored hstored => ?_, fun stored plan hstored => ?_, fun _ hletter => hletter⟩
    · cases hnone.symm.trans hstored
    · cases hnone.symm.trans hstored
  | continued record record' hacting status code hstatus hnext hw =>
    subst hw
    exact hnext.headway hacting
  | created record change auditEvent hacting hnone hkey hstatus hid hw =>
    subst hw
    exact .ofChange hacting rfl
  | moved record change updated target updates auditEvent hacting hanalyzing hstored hmove hmoved hw =>
    subst hw
    exact .ofChange hacting rfl
  | planned record record' plan hacting hnone hkey hstatus hplan hid hexpires hw =>
    subst hw
    refine .putWorkflow hacting (hkey.trans hacting.key) fun other hother => ?_
    cases hnone.symm.trans hother
  | waiting record record' change hacting hplan hasked hstored hstatus hnext hw =>
    subst hw
    exact hnext.headway hacting
  | blocked record record' change code hacting hplan hstored hstatus hnext hw =>
    subst hw
    exact hnext.headway hacting
  | gaveUp record record' code hacting hreason hnext hw =>
    subst hw
    exact hnext.headway hacting
  | lettered record letter hstored hstatus hcode hnone hkey hw =>
    subst hw
    refine ⟨fun stored hstored _ => ⟨hstored, rfl⟩, fun stored plan hstored hplan => ?_,
      fun old hold => ?_⟩
    · exact ⟨stored, hstored, hplan, rfl⟩
    · cases hnone.symm.trans hold

/-! ### The stage -/

omit [Sha256] in
theorem intakeStatuses_of_active {status : WorkflowRuntimeStatus} (h : returnsEarly status = false) :
    status = .RECEIVED ∨ status = .ANALYZING := by
  cases status <;> first | exact .inl rfl | exact .inr rfl | cases h

/-- A new record at the stage of the active record that it replaces. -/
theorem Intake.putWorkflow (h : Intake event w) (hacting : Acting event record w)
    (hkey : record'.key = workflowKey event)
    (hstage : Stage event record (w.status? event) w.rest.log →
      Stage event record' (w.status? event) w.rest.log) : Intake event (w.putWorkflow record') where
  opened hnone := by cases (workflow?_put hkey).symm.trans hnone
  stage stored hstored := by
    obtain rfl := Option.some.inj ((workflow?_put hkey).symm.trans hstored)
    exact hstage (h.stage record hacting.stored)
  lettered letter hletter := by
    -- the workflow that has a letter is not active any more
    obtain ⟨dead, hdead, hstatus, -⟩ := h.lettered letter hletter
    obtain rfl := Option.some.inj (hacting.stored.symm.trans hdead)
    have hactive := hacting.active
    rw [hstatus] at hactive
    cases hactive

/-- The active record moves on in the statuses of the intake. -/
theorem Stage.restated {status : WorkflowRuntimeStatus} {code : Option String}
    {change : Option WorkflowState} {log : List RemoteEvent} (h : Stage event record change log)
    (hnext : Restated record status code record') (hstatus : status ∈ intakeStatuses)
    (hreceived : status = .RECEIVED → record.status = .RECEIVED)
    (hwaiting : status = .WAITING_APPROVAL → change = some .AWAITING_APPROVAL ∧
      record.plan.isSome ∧ .approvalRequested (approvalIdOf event) ∈ log)
    (hfailed : status = .FAILED → change = some .BLOCKED) : Stage event record' change log := by
  obtain ⟨-, hchange, hold, hplanned, hunplanned, -, -⟩ := h
  constructor
  case status => rw [hnext.status]; exact hstatus
  case state => exact hchange
  case received => exact fun heq => hold (hreceived (hnext.status.symm.trans heq))
  case planned => rw [hnext.plan, hnext.approvalId, hnext.approvalExpiresAt]; exact hplanned
  case unplanned => rw [hnext.plan]; exact hunplanned
  case waiting =>
    rw [hnext.plan]
    exact fun heq => hwaiting (hnext.status.symm.trans heq)
  case failed => exact fun heq => hfailed (hnext.status.symm.trans heq)

/-- The change of an active record moves on in the states of the intake. -/
theorem Stage.moved {status : Option WorkflowState} {target : WorkflowState} {log : List RemoteEvent}
    (h : Stage event record status log) (hactive : returnsEarly record.status = false)
    (htarget : target ∈ intakeStates)
    (hreceived : record.status = .RECEIVED → target = .RECEIVED)
    (hunplanned : record.plan = none → target ≠ .PLAN_READY ∧ target ≠ .AWAITING_APPROVAL) :
    Stage event record (some target) log := by
  have hrunning := intakeStatuses_of_active hactive
  constructor
  case status => exact h.status
  case state =>
    intro moved hmoved
    cases hmoved
    exact htarget
  case received =>
    intro hstatus moved hmoved
    cases hmoved
    exact hreceived hstatus
  case planned => exact h.planned
  case unplanned =>
    intro hnone
    obtain ⟨hready, hawaiting⟩ := hunplanned hnone
    exact ⟨fun heq => hready (Option.some.inj heq), fun heq => hawaiting (Option.some.inj heq)⟩
  case waiting =>
    intro hwaiting
    rw [hwaiting] at hactive
    cases hactive
  case failed =>
    intro hfailed
    rw [hfailed] at hactive
    cases hactive

/-- The change of an active record is replaced. -/
theorem Intake.ofChange {target : WorkflowState} (h : Intake event w) (hacting : Acting event record w)
    (hrest : w'.rest = w.rest) (hstatus : w'.status? event = some target)
    (htarget : target ∈ intakeStates) (hreceived : record.status = .RECEIVED → target = .RECEIVED)
    (hunplanned : record.plan = none → target ≠ .PLAN_READY ∧ target ≠ .AWAITING_APPROVAL) :
    Intake event w' := by
  have hworkflow : w'.workflow? (workflowKey event) = w.workflow? (workflowKey event) :=
    workflow?_of_workflows (by rw [hrest])
  refine ⟨fun hnone => ?_, fun stored hstored => ?_, fun letter hletter => ?_⟩
  · cases hacting.stored.symm.trans (hworkflow.symm.trans hnone)
  · rw [hworkflow] at hstored
    obtain rfl := Option.some.inj (hacting.stored.symm.trans hstored)
    rw [hstatus, hrest]
    exact (h.stage record hacting.stored).moved hacting.active htarget hreceived hunplanned
  · rw [letter?_of_workflows (show w'.rest.workflows = w.rest.workflows by rw [hrest])] at hletter
    obtain ⟨dead, hdead, hcode⟩ := h.lettered letter hletter
    exact ⟨dead, hworkflow.trans hdead, hcode⟩

/-- The states to which deliveries move a change, and what they need. -/
theorem DeliveryMove.target_intake {status target : WorkflowState} {updates : RecordUpdates}
    (h : DeliveryMove record status target updates) : target ∈ intakeStates ∧
      (record.plan = none → target ≠ .PLAN_READY ∧ target ≠ .AWAITING_APPROVAL) := by
  cases h with
  | screening _ => exact ⟨by decide, fun _ => by decide⟩
  | analyzing _ => exact ⟨by decide, fun _ => by decide⟩
  | planReady hplan _ =>
    refine ⟨by decide, fun hnone => ?_⟩
    cases hnone.symm.trans hplan
  | awaiting hplan _ =>
    refine ⟨by decide, fun hnone => ?_⟩
    rw [hnone] at hplan
    cases hplan
  | blocked _ => exact ⟨by decide, fun _ => by decide⟩

/-- The stage of a first delivery. -/
theorem Stage.opened {log : List RemoteEvent} (hstatus : record.status = .RECEIVED)
    (hplan : record.plan = none) : Stage event record none log := by
  constructor
  case status => rw [hstatus]; decide
  case state => simp
  case received => simp
  case planned => simp [hplan]
  case unplanned => simp
  case waiting => simp [hstatus]
  case failed => simp [hstatus]

/-- Binding a plan does not change the stage of its delivery. -/
theorem Stage.bound {change : Option WorkflowState} {log : List RemoteEvent} {plan : RemediationPlan}
    (h : Stage event record change log) (hactive : returnsEarly record'.status = false)
    (hstatus : record'.status = record.status) (hplan : record'.plan = some plan)
    (hid : record'.approvalId = some (approvalIdOf event)) (hexpires : record'.approvalExpiresAt ≠ none) :
    Stage event record' change log := by
  constructor
  case status => rw [hstatus]; exact h.status
  case state => exact h.state
  case received => rw [hstatus]; exact h.received
  case planned => exact fun _ => ⟨hid, hexpires⟩
  case unplanned =>
    intro hmissing
    cases hmissing.symm.trans hplan
  case waiting =>
    intro hwaiting
    rw [hwaiting] at hactive
    cases hactive
  case failed =>
    intro hfailed
    rw [hfailed] at hactive
    cases hactive

/-- **One action of a delivery keeps the invariant.** -/
theorem DeliveryStep.intake {engine : WorkflowEngine E} (h : DeliveryStep engine event w w')
    (hw : Intake event w) : Intake event w' := by
  cases h with
  | quiet hquiet => exact (Elsewhere.of_quiet hquiet).intake hw
  | asked hchanges hworkflows hlog =>
    exact (Elsewhere.of_noted hchanges hworkflows (by rw [hlog]; exact List.Subset.refl _)).intake hw
  | requested record plan approvalId change hacting hplan hid hstored hstatus hchanges hworkflows hlog =>
    exact (Elsewhere.of_noted hchanges hworkflows
      (by rw [hlog]; exact List.subset_append_left _ _)).intake hw
  | opened record hnone hkey hstatus hplan hw' =>
    subst hw'
    have hchange : w.status? event = none := hw.opened hnone
    refine ⟨fun hnone' => ?_, fun stored hstored => ?_, fun letter hletter => ?_⟩
    · cases (workflow?_put hkey).symm.trans hnone'
    · obtain rfl := Option.some.inj ((workflow?_put hkey).symm.trans hstored)
      show Stage event record (w.status? event) w.rest.log
      rw [hchange]
      exact .opened hstatus hplan
    · obtain ⟨dead, hdead, -⟩ := hw.lettered letter hletter
      cases hnone.symm.trans hdead
  | continued record record' hacting status code hstatus hnext hw' =>
    subst hw'
    have hrunning := intakeStatuses_of_active hacting.active
    refine hw.putWorkflow hacting (hnext.next_key hacting) fun hstage => ?_
    have hnot : status = .RECEIVED ∨ status = .ANALYZING := by
      rcases hstatus with rfl | rfl
      · exact hrunning
      · exact .inr rfl
    refine hstage.restated hnext ?_ ?_ ?_ ?_
    · rcases hnot with rfl | rfl <;> decide
    · rintro rfl
      rcases hstatus with hsame | hother
      · exact hsame.symm
      · cases hother
    · rintro rfl
      rcases hnot with hother | hother <;> cases hother
    · rintro rfl
      rcases hnot with hother | hother <;> cases hother
  | created record change auditEvent hacting hnone hkey hstatus hid hw' =>
    subst hw'
    have hreceived : (w.commit change auditEvent).status? event = some .RECEIVED := by
      rw [status?_commit hkey, hstatus]
    exact hw.ofChange hacting rfl hreceived (by decide) (fun _ => rfl) fun _ => by decide
  | moved record change updated target updates auditEvent hacting hanalyzing hstored hmove hmoved hw' =>
    subst hw'
    obtain ⟨htarget, hunplanned⟩ := hmove.target_intake
    refine hw.ofChange hacting rfl ?_ htarget (fun hreceived => ?_) hunplanned
    · rw [← hmoved.status]
      exact status?_commit (hmoved.key.trans (InMemoryChangeStateRepository.key_of_stored hstored))
    · rw [hanalyzing] at hreceived
      cases hreceived
  | planned record record' plan hacting hnone hkey hstatus hplan hid hexpires hw' =>
    subst hw'
    refine hw.putWorkflow hacting (hkey.trans hacting.key) fun hstage => ?_
    have hactive := hacting.active
    rw [← hstatus] at hactive
    have hworkflow : record.workflowExecutionId = deriveWorkflowId event :=
      (Prod.mk.inj (Prod.mk.inj hacting.key).2).2
    rw [hworkflow] at hid
    exact hstage.bound hactive hstatus hplan hid hexpires
  | waiting record record' change hacting hplan hasked hstored hstatus hnext hw' =>
    subst hw'
    refine hw.putWorkflow hacting (hnext.next_key hacting) fun hstage => ?_
    refine hstage.restated hnext (by decide) (fun h => by cases h) (fun _ => ⟨?_, hplan, ?_⟩)
      fun h => by cases h
    · rw [World.status?, hstored, ← hstatus]
      rfl
    · obtain ⟨approvalId, hid, hmem⟩ := hasked
      rw [(hstage.planned hplan).1] at hid
      rw [Option.some.inj hid]
      exact hmem
  | blocked record record' change code hacting hplan hstored hstatus hnext hw' =>
    subst hw'
    refine hw.putWorkflow hacting (hnext.next_key hacting) fun hstage => ?_
    refine hstage.restated hnext (by decide) (fun h => by cases h) (fun h => by cases h) fun _ => ?_
    rw [World.status?, hstored, ← hstatus]
    rfl
  | gaveUp record record' code hacting hreason hnext hw' =>
    subst hw'
    refine hw.putWorkflow hacting (hnext.next_key hacting) fun hstage => ?_
    exact hstage.restated hnext (by decide) (fun h => by cases h) (fun h => by cases h)
      fun h => by cases h
  | lettered record letter hstored hstatus hcode hnone hkey hw' =>
    subst hw'
    refine ⟨hw.opened, hw.stage, fun stored hletter => ?_⟩
    rw [World.letter?, Dict.get?_set_self] at hletter
    cases hletter
    exact ⟨record, hstored, hstatus, hcode⟩

/-! ## Any number of deliveries -/

theorem Unknown.intake (h : Unknown event w) : Intake event w where
  opened _ := h.change
  stage _ hstored := by cases h.workflow.symm.trans hstored
  lettered _ hletter := by cases h.letter.symm.trans hletter

/-- The rule of a delivery whose stores may refuse; its clock may be any. -/
theorem delivers_unhealthy (engine : WorkflowEngine E) (event : ChangeEvent) (w : CoordinatorWorld E) :
    Prog.RG .alone (DeliveryStep engine event) (Delivered False engine event w)
      (engine.processEvent event) w := by
  have hrt : False → engine.rt = Demo.lawfulRuntime.toRuntime := False.elim
  have hhealthy : False → Healthy Demo.lawfulRuntime w := False.elim
  exact delivers_processEvent hrt hhealthy

/-- What a delivery leaves wherever it stops. -/
theorem intake_of_reaches {engine : WorkflowEngine E}
    {rest : WorkflowEngine.Run E WorkflowExecutionRecord} (hw : Intake event w)
    (h : Prog.Reaches (engine.processEvent event) w rest t) : Intake event t ∧ Headway event w t := by
  have hkeeps : ∀ u u', Intake event u ∧ Headway event w u → DeliveryStep engine event u u' →
      Intake event u' ∧ Headway event w u' := fun _ _ hkept hstep =>
    ⟨hstep.intake hkept.1, hkept.2.trans hstep.headway⟩
  exact ((delivers_unhealthy engine event w).of_reaches hkeeps ⟨hw, .refl w⟩ h).2

/-- **The intake is consistent at any time and takes nothing back**, however often an event is
delivered and wherever the deliveries stop. -/
theorem deliveries_intake (hw : Intake event w) (h : Deliveries event w t) :
    Intake event t ∧ Headway event w t := by
  induction h with
  | refl => exact ⟨hw, .refl w⟩
  | elsewhere _ hstep ih => exact ⟨hstep.intake ih.1, ih.2.trans hstep.headway⟩
  | delivery _ engine rest hreaches ih =>
    obtain ⟨hintake, hheadway⟩ := intake_of_reaches ih.1 hreaches
    exact ⟨hintake, ih.2.trans hheadway⟩

/-- **Whatever deliveries of an event leave behind is consistent, and later ones keep it.** From a
world that knows nothing of the event, after any deliveries that stop anywhere: the record and its
change are at one stage of the intake, an approval is waited for only after it was asked for under
the one identifier, and a dead letter is that of a dead-lettered record with its error code. What
has come to an end, the plan once bound and the dead letter stay as they are ever after. -/
theorem intake_lawful {u : CoordinatorWorld E} (hw : Unknown event w) (h : Deliveries event w t)
    (h' : Deliveries event t u) : Intake event u ∧ Headway event t u :=
  deliveries_intake (deliveries_intake hw.intake h).1 h'

/-! ## Recovery -/

/-- The fleet answers with a valid plan of known tools, and the gateway takes the request. -/
structure Cooperative (engine : WorkflowEngine E) (event : ChangeEvent) : Prop where
  fleet : ∀ {e e' answer}, FleetAnswers engine event e answer e' → ∃ analysis,
    answer = .ok analysis ∧ ¬ InvalidPlan event analysis ∧ SupportedPlan analysis.draftPlan
  gateway : ∀ {plan e e' answer}, GatewayAnswers engine plan e answer e' → answer = .ok ()

omit [Sha256] in
/-- From every state of the intake but `BLOCKED` the transitions lead to `AWAITING_APPROVAL`. -/
theorem prepared_screened {change : Option WorkflowState} (h : ∀ status ∈ change, status ∈ intakeStates) :
    prepared (screened change) =
        (if change = some .BLOCKED then .BLOCKED else .AWAITING_APPROVAL) ∧
      prepared (analyzed (screened change)) = prepared (screened change) := by
  cases change with
  | none => exact ⟨rfl, rfl⟩
  | some status =>
    have hstatus := h status rfl
    cases status <;> first | exact ⟨rfl, rfl⟩ | (simp [intakeStates] at hstatus)

theorem Planned.prepared_eq {engine : WorkflowEngine E} {change : Option WorkflowState}
    {plan : RemediationPlan} {status : WorkflowState} {e e' : E}
    (h : Planned engine event record change e plan status e')
    (hchange : ∀ status ∈ change, status ∈ intakeStates) :
    prepared status = if change = some .BLOCKED then .BLOCKED else .AWAITING_APPROVAL := by
  obtain ⟨hscreened, hanalyzed⟩ := prepared_screened hchange
  cases h with
  | stored _ => exact hscreened
  | analysed _ _ _ _ => exact hanalyzed.trans hscreened

/-- With a cooperative fleet and gateway, only a blocked change is in the way. -/
theorem Course.cooperative {engine : WorkflowEngine E} {change status : Option WorkflowState}
    {upshot : Upshot} {e e' : E} (h : Course engine event record change e upshot status e')
    (hsupported : event.eventType = "api.contract.changed") (hcooperative : Cooperative engine event)
    (hmetadata : record.plan.isSome → record.approvalId ≠ none ∧ record.approvalExpiresAt ≠ none)
    (hchange : ∀ status ∈ change, status ∈ intakeStates) :
    (upshot = .wait ∧ change ≠ some .BLOCKED) ∨
      (upshot = .fail (.workflowPermanent "CHANGE_NOT_AWAITING_APPROVAL") ∧ change = some .BLOCKED) := by
  cases h with
  | unsupported hother => exact absurd hsupported hother
  | analysis _ _ hanswer _ =>
    obtain ⟨analysis, hok, -⟩ := hcooperative.fleet hanswer
    cases hok
  | invalid _ _ hanswer hinvalid =>
    obtain ⟨analysis, hok, hvalid, -⟩ := hcooperative.fleet hanswer
    cases hok
    exact absurd hinvalid hvalid
  | tools _ _ hanswer _ htools =>
    obtain ⟨analysis, hok, -, hsupportedPlan⟩ := hcooperative.fleet hanswer
    cases hok
    exact absurd hsupportedPlan htools
  | notAwaiting _ hplanned hstatus =>
    rw [hplanned.prepared_eq hchange] at hstatus
    by_cases hblocked : change = some .BLOCKED
    · exact .inr ⟨rfl, hblocked⟩
    · rw [if_neg hblocked] at hstatus
      exact absurd rfl hstatus
  | noMetadata _ hplan _ hmissing =>
    obtain ⟨hid, hexpires⟩ := hmetadata (by rw [hplan]; rfl)
    rcases hmissing with hnone | hnone
    · exact absurd hnone hid
    · exact absurd hnone hexpires
  | approval _ hplanned hstatus hanswer =>
    rw [hplanned.prepared_eq hchange] at hstatus
    obtain rfl := hcooperative.gateway hanswer
    refine .inl ⟨rfl, fun hblocked => ?_⟩
    rw [if_pos hblocked] at hstatus
    cases hstatus

/-- How one more delivery ends, by what the earlier ones have left behind in `w`. -/
inductive Redelivered (event : ChangeEvent) (w t : CoordinatorWorld E) :
    Except Exn WorkflowExecutionRecord → Prop where
  | settled {record : WorkflowExecutionRecord}
      (hstored : w.workflow? (workflowKey event) = some record)
      (hearly : returnsEarly record.status = true) (hsame : Unchanged w t) :
      Redelivered event w t (.ok record)
  | waiting {final : WorkflowExecutionRecord} (hactive : ∀ record,
        w.workflow? (workflowKey event) = some record → returnsEarly record.status = false)
      (hchange : w.status? event ≠ some .BLOCKED)
      (hstored : t.workflow? (workflowKey event) = some final)
      (hstatus : final.status = .WAITING_APPROVAL) (hintake : Intake event t) :
      Redelivered event w t (.ok final)
  | blocked (hactive : ∀ record, w.workflow? (workflowKey event) = some record →
        returnsEarly record.status = false)
      (hchange : w.status? event = some .BLOCKED) :
      Redelivered event w t (.error (.workflowPermanent "CHANGE_NOT_AWAITING_APPROVAL"))
  | foreign (hnone : w.status? event = none) (hstill : t.status? event = none)
      (howned : (t.changes.tenantsByChangeId.getD (deriveChangeId event) []).isEmpty = false) :
      Redelivered event w t (.error (.tenantScopeViolation event.tenantId (deriveChangeId event)))

/-- The record with which a delivery begins has the metadata of its plan. -/
theorem Begins.metadata (h : Begins event w record) (hw : Intake event w) :
    record.plan.isSome → record.approvalId ≠ none ∧ record.approvalExpiresAt ≠ none := by
  intro hplan
  rcases h.prior with ⟨-, hnone, -⟩ | ⟨stored, hstored, hnext⟩
  · rw [hnone] at hplan
    cases hplan
  · rw [hnext.plan] at hplan
    obtain ⟨hid, hexpires⟩ := (hw.stage stored hstored).planned hplan
    rw [hnext.approvalId, hnext.approvalExpiresAt, hid]
    exact ⟨Option.some_ne_none _, hexpires⟩

theorem Begins.stored_active (h : Begins event w record) : ∀ stored,
    w.workflow? (workflowKey event) = some stored → returnsEarly stored.status = false := by
  intro stored hstored
  rcases h.prior with ⟨hnone, -⟩ | ⟨prior, hprior, hnext⟩
  · cases hnone.symm.trans hstored
  · obtain rfl := Option.some.inj (hprior.symm.trans hstored)
    rw [← hnext.status]
    exact h.active

theorem Begins.change_intake (h : Begins event w record) (hw : Intake event w) :
    ∀ status ∈ w.status? event, status ∈ intakeStates := by
  intro status hstatus
  rcases h.prior with ⟨hnone, -⟩ | ⟨prior, hprior, -⟩
  · rw [hw.opened hnone] at hstatus
    cases hstatus
  · exact (hw.stage prior hprior).state status hstatus

/-- **Redelivery recovers.** Whatever cut-off deliveries of a supported event have left behind, one
more delivery on healthy stores, with a fleet and a gateway that cooperate, returns a workflow that
has come to its end, or leads it to the approval pause. What it cannot recover is a change that an
earlier delivery blocked without reaching the end of its record, and a change of another tenant. -/
theorem Intake.redelivered {engine : WorkflowEngine E} {rt : LawfulRuntime}
    {outcome : Except Exn WorkflowExecutionRecord} (hintake : Intake event t)
    (hrt : engine.rt = rt.toRuntime) (hsupported : event.eventType = "api.contract.changed")
    (hcooperative : Cooperative engine event) (hhealthy : Healthy rt t)
    (hrun : Prog.Runs (engine.processEvent event) t outcome t') : Redelivered event t t' outcome := by
  have hend : Delivered True engine event t outcome t' :=
    (delivers_processEvent (fun _ => hrt) fun _ => hhealthy).of_runs hrun
  cases hend with
  | early hstored hearly hsame => exact .settled hstored hearly hsame
  | @went record _ _ hbegins hend =>
    have hactive := hbegins.stored_active
    have hends {upshot : Upshot} {status : Option WorkflowState} {e' : E}
        (hcourse : Course engine event record (t.status? event) t.rest.remote upshot status e') :=
      hcourse.cooperative hsupported hcooperative (hbegins.metadata hintake)
        (hbegins.change_intake hintake)
    cases hend with
    | waiting hcourse hleft hstatus hletter =>
      rcases hends hcourse with ⟨-, hchange⟩ | ⟨hfails, -⟩
      · exact .waiting hactive hchange hleft.stored hstatus (intake_of_reaches hintake hrun).1
      · cases hfails
    | blocked hcourse _ _ _ _ => rcases hends hcourse with ⟨hwaits, -⟩ | ⟨hfails, -⟩ <;> contradiction
    | gaveUp hcourse _ _ _ _ _ _ _ =>
      rcases hends hcourse with ⟨hwaits, -⟩ | ⟨hfails, -⟩ <;> contradiction
    | conflict hcourse _ _ _ _ _ =>
      rcases hends hcourse with ⟨hwaits, -⟩ | ⟨hfails, -⟩ <;> contradiction
    | unstorable hcourse _ _ _ _ =>
      rcases hends hcourse with ⟨hwaits, -⟩ | ⟨hfails, -⟩ <;> contradiction
    | failed hcourse _ _ _ =>
      rcases hends hcourse with ⟨hwaits, -⟩ | ⟨hfails, hblocked⟩
      · cases hwaits
      · cases hfails
        exact .blocked hactive hblocked
    | foreign hnone hleft _ howned => exact .foreign hnone hleft.change howned
    | refused hH _ _ _ => exact absurd trivial hH

end Keeps

namespace Demo

/-- A world that knows nothing. -/
def untouched : CoordinatorWorld Unit :=
  ⟨InMemoryChangeStateRepository.empty, 0, 0, ⟨InMemoryWorkflowRepository.empty, (), []⟩⟩

theorem unknown_untouched : Unknown event untouched := ⟨rfl, rfl, rfl⟩

theorem healthy_untouched : Healthy lawfulRuntime untouched where
  clock hstored := by cases hstored
  fresh _ _ _ := rfl
  workflows hstored := by cases hstored

/-- A fleet that answers with the demonstration plan, and a gateway that takes every request. -/
def intakeEngine : WorkflowEngine Unit where
  services := { deadServices with
    analyze := fun _ _ _ _ e => (.ok ⟨plan, planHash⟩, e)
    createApproval := fun _ _ _ _ _ e => (.ok (), e) }
  retry := retryPolicy
  rt := lawfulRuntime.toRuntime

theorem cooperative_intakeEngine : Cooperative intakeEngine event where
  fleet := by
    rintro _ _ answer ⟨requestId, changes, hanswer⟩
    refine ⟨⟨plan, planHash⟩, (Prod.mk.inj hanswer).1.symm, ?_, fun step hstep => ?_⟩
    · have hchange : plan.changeId = deriveChangeId event := rfl
      have hhash : planHash = calculatePlanHash plan := rfl
      rintro (hother | hother | hother)
      · exact hother rfl
      · exact hother hchange
      · exact hother hhash
    · rw [List.mem_singleton.mp hstep]
      exact ⟨.crm, rfl⟩
  gateway := by
    rintro _ _ _ answer ⟨_, _, _, _, hanswer⟩
    exact (Prod.mk.inj hanswer).1.symm

/-- Wherever the first delivery is cut off, the second may begin. -/
theorem deliveries_twice : ∃ t u, Deliveries event untouched t ∧ Deliveries event t u ∧
    ∃ outcome, Prog.Runs (intakeEngine.processEvent event) t outcome u := by
  obtain ⟨_, t, hfirst⟩ := Prog.exists_runs (deadEngine.processEvent event) untouched
  obtain ⟨outcome, u, hsecond⟩ := Prog.exists_runs (intakeEngine.processEvent event) t
  exact ⟨t, u, .delivery (.refl _) deadEngine _ hfirst, .delivery (.refl _) intakeEngine _ hsecond,
    outcome, hsecond⟩

end Demo

open Demo in
/-- A first delivery that finds the fleet dead, and a second one that does not. -/
theorem intake_lawful_twice : ∃ t u, Deliveries event untouched t ∧ Intake event u ∧
    Headway event t u := by
  obtain ⟨t, u, hfirst, hsecond, -⟩ := deliveries_twice
  exact ⟨t, u, hfirst, intake_lawful unknown_untouched hfirst hsecond⟩

end ChangeOps
