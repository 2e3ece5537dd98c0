import ChangeOps.Workflow.Engine
import ChangeOps.Core.TransitionLaw

/-!
# ChangeOps.Workflow — messages that arrive after the end

A workflow in a terminal status has nothing left to do, and both entry points of the engine
return early for it. They keep separate lists of the statuses to return on, and the list of
`resume_approval` lacks `DEAD_LETTERED`: an approval callback for a dead-lettered workflow
goes on to move the change, or rewrites the workflow as `FAILED`.
-/

namespace ChangeOps

open Prog

section Settled

variable [Sha256] {E : Type}

/-- The change store, the workflow store, the services and the traffic are as they were. -/
structure Unchanged (w w' : CoordinatorWorld E) : Prop where
  changes : w'.changes = w.changes
  rest : w'.rest = w.rest

/-- Every run of `p` from `w` returns `record` and changes nothing. -/
def ReturnsUnchanged (p : WorkflowEngine.Run E WorkflowExecutionRecord) (w : CoordinatorWorld E)
    (record : WorkflowExecutionRecord) : Prop :=
  ∀ outcome w', Runs p w outcome w' → outcome = .ok record ∧ Unchanged w w'

/-- The event is the one that the record is about. -/
def DeliveredFor (event : ChangeEvent) (record : WorkflowExecutionRecord) : Prop :=
  (event.tenantId, deriveChangeId event, deriveWorkflowId event) = record.key

/-- The world stores the record, and the change that the record is about names it. -/
structure StoresTerminal (w : CoordinatorWorld E) (record : WorkflowExecutionRecord) : Prop where
  workflow : w.rest.workflows.stored? record.key = some record
  change : ∃ change, w.changes.stored? (record.tenantId, record.changeId) = some change ∧
    change.workflowExecutionId = some record.workflowExecutionId
  terminal : record.status.isTerminal = true

namespace WorkflowEngine

variable {engine : WorkflowEngine E} {w : CoordinatorWorld E} {record : WorkflowExecutionRecord}

theorem processEvent_returns {event : ChangeEvent} (hw : StoresTerminal w record)
    (hevent : DeliveredFor event record) :
    ReturnsUnchanged (engine.processEvent event) w record := by
  have hget : w.rest.workflows.get event.tenantId (deriveChangeId event) (deriveWorkflowId event) =
      .ok record := by
    rw [InMemoryWorkflowRepository.get_eq_ok, hevent]
    exact hw.workflow
  have hearly : returnsEarly record.status = true := by
    rcases WorkflowRuntimeStatus.isTerminal_iff.mp hw.terminal with h | h | h | h <;> rw [h] <;> rfl
  have htriple : RG .alone (fun _ _ => True) (fun r t => r = .ok record ∧ Unchanged w t)
      (engine.processEvent event) w := by
    simp only [processEvent, openWorkflow, now, getWorkflow, bind_eq_bind, RG.alone_bind,
      RG.alone_tryCatch, RG.alone_atomic, hget, hearly, if_true, pure_eq_ret, RG.alone_ret,
      true_and]
    exact ⟨rfl, rfl⟩
  exact fun _ _ hrun => htriple.of_runs hrun

/-- What `resume_approval` does with a matching callback, once it has read both records. -/
theorem resumeApproval_reads (engine : WorkflowEngine E) {callback : ApprovalCallbackRequest} (hw : StoresTerminal w record)
    (hcallback : CallbackMatches callback record)
    {Q : Except Exn WorkflowExecutionRecord → CoordinatorWorld E → Prop}
    (hreturn : record.status ≠ .DEAD_LETTERED → Q (.ok record) w)
    (hgoOn : record.status = .DEAD_LETTERED → ∀ change,
      RG .alone (fun _ _ => True) Q (engine.applyDecision callback change record) w) :
    RG .alone (fun _ _ => True) Q (engine.resumeApproval callback) w := by
  obtain ⟨change, hstored, hworkflow⟩ := hw.change
  have hchange : w.changes.get callback.tenantId callback.changeId = .ok change := by
    rw [InMemoryChangeStateRepository.get_eq_ok, hcallback.tenantId, hcallback.changeId]
    exact hstored
  have hget : w.rest.workflows.get callback.tenantId callback.changeId
      record.workflowExecutionId = .ok record := by
    rw [InMemoryWorkflowRepository.get_eq_ok, hcallback.tenantId, hcallback.changeId]
    exact hw.workflow
  simp only [resumeApproval, getChange, getWorkflow, bind_eq_bind, RG.alone_bind, RG.alone_atomic,
    hchange, hworkflow, hget, true_and]
  split_ifs with hearly
  · rw [pure_eq_ret, RG.alone_ret]
    refine hreturn fun hdead => ?_
    rw [hdead] at hearly
    simp at hearly
  · have hdead : record.status = .DEAD_LETTERED := by
      have hterminal := WorkflowRuntimeStatus.isTerminal_iff.mp hw.terminal
      tauto
    obtain ⟨plan, hplan, hversion⟩ := Option.map_eq_some_iff.mp hcallback.planVersion
    simp only [requirePlan, hplan, RG.alone_bind, RG.alone_ret, hcallback.approvalId,
      hcallback.planHash, hversion, ne_eq, not_true_eq_false, or_self, if_false]
    exact hgoOn hdead change

theorem resumeApproval_returns {callback : ApprovalCallbackRequest} (hw : StoresTerminal w record)
    (hcallback : CallbackMatches callback record) (hstatus : record.status ≠ .DEAD_LETTERED) :
    ReturnsUnchanged (engine.resumeApproval callback) w record := by
  have htriple := resumeApproval_reads engine hw hcallback
    (Q := fun r t => r = .ok record ∧ Unchanged w t) (fun _ => ⟨rfl, rfl, rfl⟩)
    (fun hdead => absurd hdead hstatus)
  exact fun _ _ hrun => htriple.of_runs hrun

/-! ## A dead-lettered workflow -/

/-- An update never returns the record that it started from: its version is higher. -/
theorem updateRecord_ne (updates : WorkflowFields → WorkflowFields) (w : CoordinatorWorld E) :
    RG .alone (fun _ _ => True) (fun r _ => r ≠ .ok record)
      (engine.updateRecord record updates) w := by
  simp only [updateRecord, now, onWorkflows, bind_eq_bind, RG.alone_bind, RG.alone_atomic,
    RG.alone_ofExcept, true_and]
  generalize hvalid : WorkflowFields.modelValidate _ = validated
  cases validated with
  | ok updated =>
    have hversion : updated.version = record.version + 1 :=
      congrArg (·.version) (WorkflowFields.modelValidate_of_ok hvalid)
    dsimp only
    rcases InMemoryWorkflowRepository.update_cases updated record.version w.rest.workflows with
      ⟨e, heq⟩ | ⟨-, -, -, -, heq⟩ <;> rw [heq]
    · intro h
      cases h
    · intro h
      cases h
      exact Nat.succ_ne_self _ hversion.symm
  | error e =>
    intro h
    cases h

/-- A terminal record cannot be given a status that is not terminal. -/
theorem setRuntimeStatus_raises {status : WorkflowRuntimeStatus} {code : Option String}
    (hterminal : record.status.isTerminal = true) (hstatus : status.isTerminal = false)
    (w : CoordinatorWorld E) :
    RG .alone (fun _ _ => True) (fun r _ => ∃ e, r = .error e)
      (engine.setRuntimeStatus record status code) w := by
  have hne : record.status ≠ status := by
    rintro rfl
    rw [hterminal] at hstatus
    cases hstatus
  simp only [setRuntimeStatus, hne, false_and, if_false, updateRecord, now, onWorkflows,
    bind_eq_bind, RG.alone_bind, RG.alone_atomic, RG.alone_ofExcept, true_and]
  split
  · next updated hvalid =>
    -- the document keeps its completion time, so `validate_lifecycle` refuses it
    have hfields := WorkflowFields.modelValidate_of_ok hvalid
    have hlife := updated.terminal_iff
    rw [hfields] at hlife
    simp only [revise, hstatus, ← record.terminal_iff, hterminal] at hlife
    cases hlife
  · next e _ => exact ⟨e, rfl⟩

/-- On a dead-lettered workflow no decision comes back with the record as it was. -/
theorem applyDecision_ne {callback : ApprovalCallbackRequest} {change : ChangeRecord}
    (hdead : record.status = .DEAD_LETTERED) (w : CoordinatorWorld E) :
    RG .alone (fun _ _ => True) (fun r _ => r ≠ .ok record)
      (engine.applyDecision callback change record) w := by
  unfold applyDecision
  cases callback.status with
  | REJECTED =>
    refine (RG.any _ w).bind (fun _ t _ => ?_) fun _ _ _ => nofun
    simp only [terminal, hdead, reduceCtorEq, false_and, if_false]
    exact (RG.any _ t).bind (fun _ t _ => updateRecord_ne _ t) fun _ _ _ => nofun
  | CHANGES_REQUESTED =>
    refine (RG.any _ w).bind (fun _ t _ => ?_) fun _ _ _ => nofun
    refine (RG.any _ t).bind (fun _ t _ => ?_) fun _ _ _ => nofun
    simp only [setRuntimeStatus, hdead, reduceCtorEq, false_and, if_false]
    exact updateRecord_ne _ t
  | APPROVED =>
    refine (RG.any _ w).bind (fun _ t _ => ?_) fun _ _ _ => nofun
    refine (RG.any _ t).bind (fun _ t _ => ?_) fun _ _ _ => nofun
    split_ifs
    · exact RG.raise fun _ _ => nofun
    · have hraises : RG .alone (fun _ _ => True) (fun r _ => ∃ e, r = .error e)
          (engine.setRuntimeStatus record .EXECUTING none) t :=
        setRuntimeStatus_raises (by rw [hdead]; rfl) rfl t
      refine hraises.bind ?_ fun _ _ _ => nofun
      rintro _ _ ⟨e, he⟩
      cases he

theorem resumeApproval_ne {callback : ApprovalCallbackRequest} (hw : StoresTerminal w record)
    (hcallback : CallbackMatches callback record) (hdead : record.status = .DEAD_LETTERED) :
    ¬ ReturnsUnchanged (engine.resumeApproval callback) w record := by
  intro hreturns
  have htriple := resumeApproval_reads engine hw hcallback
    (Q := fun r _ => r ≠ .ok record) (fun hstatus => absurd hdead hstatus)
    (fun _ change => applyDecision_ne hdead w)
  obtain ⟨outcome, w', hrun⟩ := exists_runs (engine.resumeApproval callback) w
  exact htriple.of_runs hrun (hreturns outcome w' hrun).1

end WorkflowEngine

/-- For a workflow in a terminal status, a redelivered event and a matching approval callback
both return the stored record and change nothing, if and only if the workflow is not
dead-lettered. -/
theorem terminal_workflow_settled_iff (engine : WorkflowEngine E) (w : CoordinatorWorld E)
    (record : WorkflowExecutionRecord) (event : ChangeEvent) (callback : ApprovalCallbackRequest)
    (hw : StoresTerminal w record) (hevent : DeliveredFor event record)
    (hcallback : CallbackMatches callback record) :
    (ReturnsUnchanged (engine.processEvent event) w record ∧
        ReturnsUnchanged (engine.resumeApproval callback) w record) ↔
      record.status ≠ .DEAD_LETTERED := by
  constructor
  · rintro ⟨-, hresume⟩ hdead
    exact WorkflowEngine.resumeApproval_ne hw hcallback hdead hresume
  · intro hstatus
    exact ⟨WorkflowEngine.processEvent_returns hw hevent,
      WorkflowEngine.resumeApproval_returns hw hcallback hstatus⟩

end Settled

/-! ## A demonstration workflow

One step on the CRM; the event, the plan and the record that the coordinator would store. -/

namespace Demo

def event : ChangeEvent where
  schemaVersion := "1.0"
  eventId := "evt_001"
  tenantId := "tenant_demo"
  eventType := "api.contract.changed"
  source := ⟨"github", "ext_001", "https://example.test"⟩
  occurredAt := 0
  receivedAt := 0
  subject := ⟨"billing", "api", "customers"⟩
  change := ⟨"Customer field renamed", "1", "2", ["contract://customers/2"]⟩
  correlationId := "corr_001"
  traceId := "trace_001"

def changeId : String := deriveChangeId event

def workflowId : String := deriveWorkflowId event

def step : RemediationStep where
  stepId := "step_crm"
  order := 1
  agentId := "crm-agent"
  toolName := "crm.update_field_mapping"
  resource := "crm/customer"
  arguments := ⟨[("new_field", .str "customer_id"), ("old_field", .str "cust_id")], by decide⟩
  dependsOn := []
  riskLevel := .MEDIUM
  requiresApproval := true
  idempotencyKey := "key_crm"

def plan : RemediationPlan where
  planId := "plan_001"
  tenantId := "tenant_demo"
  changeId := changeId
  version := 1
  riskLevel := .MEDIUM
  summary := "Rename the customer field"
  preconditions := []
  steps := [step]
  verificationSteps := []
  rollbackSteps := []
  evidenceRefs := []
  createdAt := 0
  version_pos := one_le_one
  steps_ne_nil := List.cons_ne_nil _ _
  graph := by decide

def planHash : String := calculatePlanHash plan

/-- The workflow with its plan, in a given status. -/
def record (status : WorkflowRuntimeStatus) (completedAt : Option Time)
    (h : status.isTerminal = completedAt.isSome) : WorkflowExecutionRecord where
  workflowExecutionId := workflowId
  tenantId := "tenant_demo"
  changeId := changeId
  eventId := "evt_001"
  traceId := "trace_001"
  event := event
  status := status
  deliveryAttempts := 1
  plan := some plan
  planHash := some planHash
  approvalId := some "approval_001"
  approvalExpiresAt := some 1000
  tasks := [WorkflowEngine.pendingTask 0 step .crm]
  startedAt := 0
  updatedAt := 0
  completedAt := completedAt
  version := 1
  error_code_checked := nonEmptyStrOrNone_none
  event_scope := ⟨rfl, rfl⟩
  started_le_updated := Nat.le_refl 0
  plan_paired := rfl
  plan_matches := ⟨rfl, rfl, rfl, List.Subset.refl ["step_crm"], List.Subset.refl ["step_crm"]⟩
  terminal_iff := h

/-- The change of the workflow, in a given status. -/
def changeIn (status : WorkflowState) : ChangeRecord :=
  { change with
    changeId := changeId
    status := status
    currentPhase := status
    workflowExecutionId := some workflowId
    planHash := some planHash
    phase_eq := rfl }

def callback (status : CallbackStatus) : ApprovalCallbackRequest :=
  ⟨"tenant_demo", changeId, "approval_001", planHash, 1, status, 0⟩

/-- Services that never get an answer through. -/
def deadServices : Services Unit where
  analyze _ _ _ _ e := (.error (.dependencyCall "FLEET_UNAVAILABLE" true), e)
  createApproval _ _ _ _ _ e := (.error (.dependencyCall "TOOL_GATEWAY_UNAVAILABLE" true), e)
  execute _ _ _ := .raise (.dependencyCall "TOOL_GATEWAY_UNAVAILABLE" true)
  snapshot _ _ _ _ e := (.error (.dependencyCall "SANDBOX_UNAVAILABLE" true), e)
  restore _ _ _ _ _ e := (.error (.dependencyCall "SANDBOX_UNAVAILABLE" true), e)
  verify _ _ _ _ _ e := (.error (.dependencyCall "SANDBOX_UNAVAILABLE" true), e)
  configuration _ _ _ _ e := (.error (.dependencyCall "SANDBOX_UNAVAILABLE" true), e)

def retryPolicy : RetryPolicy := ⟨3, by decide⟩

def deadEngine : WorkflowEngine Unit := ⟨deadServices, retryPolicy, runtime⟩

/-- The world after the approval request of the workflow was refused for good. -/
def worldWith (record : WorkflowExecutionRecord) (status : WorkflowState) :
    CoordinatorWorld Unit :=
  ⟨InMemoryChangeStateRepository.empty.put (changeIn status), 0, 0,
    ⟨InMemoryWorkflowRepository.empty.put record, (), []⟩⟩

end Demo

open Demo in
/-- The completed demonstration workflow ignores its event and its callback. -/
theorem terminal_workflow_settled_completed :
    ReturnsUnchanged (deadEngine.processEvent event)
        (worldWith (record .COMPLETED (some 0) rfl) .COMPLETED) (record .COMPLETED (some 0) rfl) ∧
      ReturnsUnchanged (deadEngine.resumeApproval (callback .APPROVED))
        (worldWith (record .COMPLETED (some 0) rfl) .COMPLETED)
        (record .COMPLETED (some 0) rfl) := by
  refine (terminal_workflow_settled_iff deadEngine _ _ event (callback .APPROVED) ?_ ?_ ?_).mpr
    nofun
  · exact ⟨InMemoryWorkflowRepository.stored?_put_self _ _,
      ⟨changeIn .COMPLETED, InMemoryChangeStateRepository.stored?_put_self _ _, rfl⟩, rfl⟩
  · exact Eq.refl (record .COMPLETED (some 0) rfl).key
  · exact ⟨rfl, rfl, rfl, rfl, rfl⟩

open Demo in
/-- A dead-lettered workflow does not: its approval callback comes back with something else. -/
theorem not_settled_deadLettered :
    ¬ ∀ [Sha256] (engine : WorkflowEngine Unit) (w : CoordinatorWorld Unit)
      (record : WorkflowExecutionRecord) (event : ChangeEvent)
      (callback : ApprovalCallbackRequest), StoresTerminal w record → DeliveredFor event record →
      CallbackMatches callback record →
      ReturnsUnchanged (engine.processEvent event) w record ∧
        ReturnsUnchanged (engine.resumeApproval callback) w record := by
  intro h
  have hw : StoresTerminal (worldWith (record .DEAD_LETTERED (some 0) rfl) .AWAITING_APPROVAL)
      (record .DEAD_LETTERED (some 0) rfl) :=
    ⟨InMemoryWorkflowRepository.stored?_put_self _ _,
      ⟨changeIn .AWAITING_APPROVAL, InMemoryChangeStateRepository.stored?_put_self _ _, rfl⟩, rfl⟩
  have hcallback : CallbackMatches (callback .APPROVED) (record .DEAD_LETTERED (some 0) rfl) :=
    ⟨rfl, rfl, rfl, rfl, rfl⟩
  have hsettled := (h deadEngine _ _ event (callback .APPROVED) hw rfl hcallback).2
  exact WorkflowEngine.resumeApproval_ne hw hcallback rfl hsettled

end ChangeOps
