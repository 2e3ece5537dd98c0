import Mathlib.Data.Set.Function
import ChangeOps.Lib.Pool
import ChangeOps.Policy.Scope
import ChangeOps.ToolGateway.HandlerRules
import ChangeOps.ToolGateway.Takeover

/-!
# ChangeOps.ToolGateway — what stands behind the call of a tool

Any number of `create_approval`, `approve`, `reject`, `request_changes` and
`evaluate_and_execute` requests interleave over the governance repository. The evidence for an
execution is put together by several of them: the plan and the approval request are stored by one,
the decision by another, and the executing request reads both, asks the policy, and lets the
reservation check the approval again. `Governed` is that evidence, and it is all there whenever a
tool is called (`executesGoverned`): what a request has seen of it, nobody takes away
(`GovernanceMoves`).

A stored plan can only be replaced by a plan with the same digest, so what is said about plans
assumes that the digests of the plans in a run do not collide.
-/

namespace ChangeOps

open GovernanceRepository

/-! ## Requests -/

/-- A request to the gateway; `id` tells executions apart. -/
inductive GatewayRequest where
  | create (request : CreationRequest)
  | decide (request : DecisionRequest)
  | execute (id : Nat) (request : ExecutionRequest)

/-- The texts of an identity are `NonEmptyStr`. -/
def VerifiedIdentity.WellFormed (identity : VerifiedIdentity) : Prop :=
  nonEmptyStr identity.subject = .ok identity.subject ∧
    nonEmptyStr identity.tenantId = .ok identity.tenantId

def GatewayRequest.identity : GatewayRequest → VerifiedIdentity
  | .create request => request.identity
  | .decide request => request.identity
  | .execute _ request => request.identity

/-- The plan that a request submits. -/
def GatewayRequest.plan? : GatewayRequest → Option RemediationPlan
  | .create request => some request.body.plan
  | .decide _ => none
  | .execute _ _ => none

/-! ## The evidence -/

/-- A step of the plan is the action of an intent. -/
structure StepOf (intent : ToolIntent) (step : RemediationStep) : Prop where
  stepId : step.stepId = intent.stepId
  agentId : step.agentId = intent.agentIdentity
  toolName : step.toolName = intent.toolName
  resource : step.resource = intent.resource
  arguments : step.arguments.pyEq intent.arguments = true
  idempotencyKey : step.idempotencyKey = intent.idempotencyKey

/-- A user other than the requester and the agent made the decision. -/
structure DecidedBy (record : ApprovalRequestRecord) (decider : VerifiedIdentity) : Prop where
  user : decider.kind = .USER
  role : .APPROVER ∈ decider.roles ∨ .PLATFORM_ADMIN ∈ decider.roles
  decided : record.decidedBy = some decider.subject
  requester : decider.subject ≠ record.requestedBy

/-- A stored, approved request for the plan of an intent. -/
structure ApprovedFor (intent : ToolIntent) (planVersion : Nat) (record : ApprovalRequestRecord) :
    Prop where
  tenantId : record.tenantId = intent.tenantId
  changeId : record.changeId = intent.changeId
  planId : record.planId = intent.planId
  planHash : record.planHash = intent.planHash
  planVersion_eq : record.planVersion = planVersion
  approved : record.status = .APPROVED
  scope : intent.stepId ∈ record.scope

/-- The audit event of an allowed action. -/
structure AllowedEvent [Sha256] (request : ExecutionRequest) (event : AuditEvent) : Prop where
  eventType : event.eventType = "TOOL_POLICY_ALLOWED"
  tenantId : event.tenantId = request.intent.tenantId
  changeId : event.changeId = request.intent.changeId
  traceId : event.traceId = request.intent.workflowExecutionId
  actorId : event.actorId = request.identity.subject
  inputHash : event.inputHash = semanticInputHash request.intent
  status : event.status = .SUCCESS

def Audited [Sha256] (request : ExecutionRequest) (w : GatewayWorld) : Prop :=
  ∃ key event, w.governance.audit.get? key = some event ∧ AllowedEvent request event

/-- Everything that must stand behind the call of the tool for an intent. -/
structure Governed [Sha256] (gateway : ToolGateway) (id : Nat) (request : ExecutionRequest)
    (w : GatewayWorld) : Prop where
  /-- The plan and its step are stored, and its approval, which had not expired. -/
  plan : ∃ plan step record decider tool reservedAt,
    w.governance.plans.get? (request.intent.tenantId, request.intent.changeId,
      request.intent.planId) = some plan ∧
    calculatePlanHash plan = request.intent.planHash ∧ step ∈ plan.steps ∧
    StepOf request.intent step ∧
    w.governance.approvals.get? (request.intent.tenantId, record.approvalId) = some record ∧
    ApprovedFor request.intent plan.version record ∧
    (id, reservedAt) ∈ w.reservations ∧ reservedAt < record.expiresAt ∧
    ((request.intent.tenantId, record.approvalId), decider) ∈ w.deciders ∧
    DecidedBy record decider ∧ decider.subject ≠ request.intent.agentIdentity ∧
    getTool gateway.registry request.intent.toolName = some tool ∧
    step.riskLevel.order < RiskLevel.CRITICAL.order ∧ tool.riskLevel.order < RiskLevel.CRITICAL.order
  audited : Audited request w

/-! ## What the checks establish -/

theorem RiskLevel.order_lt_critical {risk : RiskLevel} (h : risk ≠ .CRITICAL) :
    risk.order < RiskLevel.CRITICAL.order := by
  cases risk with
  | CRITICAL => exact absurd rfl h
  | _ => decide

/-- The higher of two risks is below critical only if both are. -/
theorem RiskLevel.max_ne_critical {a b : RiskLevel} (h : a.max b ≠ .CRITICAL) :
    a ≠ .CRITICAL ∧ b ≠ .CRITICAL := by
  cases a <;> cases b <;> first | exact ⟨by decide, by decide⟩ | exact absurd (by decide) h

/-- What `_approval_valid` checks, as far as the evidence goes. -/
structure ValidApproval (input : PolicyInput) (approval : Approval) : Prop where
  changeId : approval.changeId = input.intent.changeId
  tenantId : approval.tenantId = input.intent.tenantId
  planId : approval.planId = input.intent.planId
  planVersion : approval.planVersion = input.plan.version
  approver : approval.approvedBy ≠ input.intent.agentIdentity

theorem asApproval_eq_some {record : ApprovalRequestRecord} {approval : Approval}
    (h : record.asApproval = .ok (some approval)) :
    record.status = .APPROVED ∧ approval.approvalId = record.approvalId ∧
      approval.tenantId = record.tenantId ∧ approval.changeId = record.changeId ∧
      approval.planId = record.planId ∧ approval.planHash = record.planHash ∧
      approval.planVersion = record.planVersion ∧ approval.scope = record.scope ∧
      record.decidedBy = some approval.approvedBy ∧ approval.expiresAt = record.expiresAt := by
  unfold ApprovalRequestRecord.asApproval at h
  by_cases hstatus : record.status = .APPROVED
  · rw [if_neg (not_not.mpr hstatus)] at h
    split at h
    next decidedBy decidedAt comment hby hat hcomment =>
      split_ifs at h
      cases h
      exact ⟨hstatus, rfl, rfl, rfl, rfl, rfl, rfl, rfl, hby, rfl⟩
    · cases h
  · rw [if_pos hstatus] at h
    cases h

section

variable [Sha256]

namespace PolicyInput

/-- What an allowed action has passed, as far as the evidence goes. -/
structure Passed (input : PolicyInput) : Prop where
  step : ∃ step ∈ input.plan.steps, StepOf input.intent step ∧ step.riskLevel ≠ .CRITICAL
  tool : input.tool.riskLevel ≠ .CRITICAL
  planHash : calculatePlanHash input.plan = input.intent.planHash
  approval : input.approvalRequired = true →
    ∃ approval, input.approval = some approval ∧ ValidApproval input approval

theorem passed_of_failures_nil {input : PolicyInput} {evaluatedAt : Time}
    (h : input.failures evaluatedAt = []) : input.Passed := by
  have hstep : ∃ step, input.step? = some step := by
    cases hstep : input.step? with
    | none => simp [failures, stepFailures, hstep] at h
    | some step => exact ⟨step, rfl⟩
  obtain ⟨step, hstep⟩ := hstep
  simp only [failures, scopeFailures, stepFailures, toolFailures, hstep, List.append_eq_nil_iff,
    failWhen_eq_nil_iff, decide_eq_false_iff_not, ne_eq, not_not, Bool.not_eq_false',
    Bool.or_eq_false_iff, Bool.and_eq_false_imp] at h
  obtain ⟨⟨⟨⟨_, hplan⟩, ⟨⟨⟨⟨hagent, htool⟩, hresource⟩, harguments⟩, hkey⟩⟩, _, hrisk⟩, happroval⟩ := h
  have hid := List.find?_some hstep
  rw [decide_eq_true_eq] at hid
  have hcritical := RiskLevel.max_ne_critical hrisk
  constructor
  case step =>
    refine ⟨step, List.mem_of_find?_eq_some hstep,
      ⟨hid, hagent, htool.1, hresource, harguments, hkey⟩, ?_⟩
    have hstepRisk := hcritical.2
    rw [stepRisk, hstep] at hstepRisk
    exact hstepRisk
  case tool => exact hcritical.1
  case planHash => exact hplan.2
  case approval =>
    intro hrequired
    have hvalid := happroval hrequired
    unfold approvalValid at hvalid
    cases hget : input.approval with
    | none =>
      rw [hget] at hvalid
      cases hvalid
    | some approval =>
      rw [hget] at hvalid
      simp only [Bool.and_eq_true, decide_eq_true_eq, bne_iff_ne] at hvalid
      obtain ⟨⟨⟨⟨⟨⟨⟨⟨⟨⟨⟨_, htenant⟩, hchange⟩, hplanId⟩, _⟩, hversion⟩, _⟩, _⟩, _⟩, _⟩, _⟩, happrover⟩ :=
        hvalid
      exact ⟨approval, rfl, hchange, htenant, hplanId.1, hversion.1, happrover⟩

end PolicyInput

omit [Sha256] in
/-- A mutating tool needs an approval. -/
theorem PolicyInput.approvalRequired_of_mutating {input : PolicyInput}
    (h : input.tool.mutating = true) : input.approvalRequired = true := by
  unfold approvalRequired
  split
  · exact h
  · rw [h, Bool.or_true]

omit [Sha256] in
theorem mutating_of_getTool {toolName : String} {tool : ToolRegistration}
    (h : getTool defaultTools toolName = some tool) : tool.mutating = true := by
  have hmem := List.mem_of_find?_eq_some h
  simp only [defaultTools, List.mem_cons, List.not_mem_nil, or_false] at hmem
  rcases hmem with rfl | rfl | rfl <;> rfl

/-- A reservation that needs an approval finds it stored, current and for its step and plan. -/
theorem approval_of_reserveExecution {call : ReserveCall} {repo : GovernanceRepository}
    {reservation : ExecutionReservation} (hrequired : call.decision.approvalRequired = true)
    (h : (repo.reserveExecution call).1 = .ok reservation) :
    ∃ approval record, call.approval = some approval ∧
      repo.approvals.get? (call.intent.tenantId, record.approvalId) = some record ∧
      record.asApproval = .ok (some approval) ∧ call.now < record.expiresAt ∧
      call.intent.stepId ∈ record.scope ∧ record.planHash = call.intent.planHash := by
  have hcheck : repo.checkApproval call = .ok () := by
    unfold reserveExecution at h
    cases hcheck : repo.checkApproval call with
    | error e =>
      rw [hcheck] at h
      cases h
    | ok u => rfl
  unfold checkApproval at hcheck
  rw [if_pos hrequired] at hcheck
  cases happroval : call.approval with
  | none =>
    rw [happroval] at hcheck
    cases hcheck
  | some approval =>
    rw [happroval] at hcheck
    simp only [getApprovalRequest] at hcheck
    cases hget : repo.approvals.get? (call.intent.tenantId, approval.approvalId) with
    | none =>
      rw [hget] at hcheck
      cases hcheck
    | some record =>
      simp only [hget, bind, Except.bind] at hcheck
      cases has : record.asApproval with
      | error e =>
        rw [has] at hcheck
        cases hcheck
      | ok stored =>
        cases stored with
        | none =>
          simp only [has] at hcheck
          cases hcheck
        | some stored =>
          simp only [has] at hcheck
          split_ifs at hcheck with hstale hscope
          have hsame := not_or.mp hstale
          have hfor := not_or.mp hscope
          obtain rfl : stored = approval := of_not_not hsame.1
          obtain ⟨-, hid, -, -, -, hhash, -, hscopes, -, hexpires⟩ := asApproval_eq_some has
          refine ⟨stored, record, rfl, ?_, has, ?_, ?_, ?_⟩
          · rw [← hid]
            exact hget
          · rw [← hexpires]
            exact Nat.lt_of_not_le hsame.2
          · rw [← hscopes]
            exact of_not_not hfor.1
          · rw [← hhash]
            exact of_not_not hfor.2

/-! ## What requests rely on -/

/-- Every stored plan is one of `plans`, and every decision was made by a user who had a role for
it and was not the requester. -/
structure GovernanceInv (plans : Set RemediationPlan) (w : GatewayWorld) : Prop where
  plans_mem : ∀ {key plan}, w.governance.plans.get? key = some plan → plan ∈ plans
  decided : ∀ {key record}, w.governance.approvals.get? key = some record →
    record.status ≠ .PENDING → ∃ decider, (key, decider) ∈ w.deciders ∧ DecidedBy record decider

/-- One or more actions of other requests: plans, decisions and audit events stay. -/
structure GovernanceMoves (plans : Set RemediationPlan) (w w' : GatewayWorld) : Prop where
  inv : GovernanceInv plans w → GovernanceInv plans w'
  plan : GovernanceInv plans w → ∀ {key plan}, w.governance.plans.get? key = some plan →
    w'.governance.plans.get? key = some plan
  approval : ∀ {key record}, w.governance.approvals.get? key = some record →
    record.status ≠ .PENDING → w'.governance.approvals.get? key = some record
  audit : ∀ {key event}, w.governance.audit.get? key = some event →
    w'.governance.audit.get? key = some event
  deciders : w.deciders ⊆ w'.deciders
  reservations : w.reservations ⊆ w'.reservations

omit [Sha256] in
theorem GovernanceMoves.refl (plans : Set RemediationPlan) (w : GatewayWorld) :
    GovernanceMoves plans w w :=
  ⟨id, fun _ _ _ => id, fun h _ => h, id, List.Subset.refl _, List.Subset.refl _⟩

omit [Sha256] in
theorem GovernanceMoves.trans {plans : Set RemediationPlan} {a b c : GatewayWorld}
    (hab : GovernanceMoves plans a b) (hbc : GovernanceMoves plans b c) :
    GovernanceMoves plans a c where
  inv h := hbc.inv (hab.inv h)
  plan h _ _ hget := hbc.plan (hab.inv h) (hab.plan h hget)
  approval hget hstatus := hbc.approval (hab.approval hget hstatus) hstatus
  audit hget := hbc.audit (hab.audit hget)
  deciders := List.Subset.trans hab.deciders hbc.deciders
  reservations := List.Subset.trans hab.reservations hbc.reservations

def governanceRely (plans : Set RemediationPlan) : Rely GatewayWorld :=
  ⟨GovernanceMoves plans, GovernanceMoves.refl plans, GovernanceMoves.trans⟩

omit [Sha256] in
/-- An action that keeps plans, approvals, decisions and the audit trail. -/
theorem governanceMoves_of_kept {plans : Set RemediationPlan} {w w' : GatewayWorld}
    (hplans : w'.governance.plans = w.governance.plans)
    (happrovals : w'.governance.approvals = w.governance.approvals)
    (haudit : ∀ {key event}, w.governance.audit.get? key = some event →
      w'.governance.audit.get? key = some event)
    (hdeciders : w.deciders ⊆ w'.deciders) (hreservations : w.reservations ⊆ w'.reservations) :
    GovernanceMoves plans w w' where
  inv h := by
    constructor
    · rw [hplans]
      exact h.plans_mem
    · rw [happrovals]
      intro key record hget hstatus
      obtain ⟨decider, hmem, hdecided⟩ := h.decided hget hstatus
      exact ⟨decider, hdeciders hmem, hdecided⟩
  plan _ _ _ hget := by
    rw [hplans]
    exact hget
  approval hget _ := by
    rw [happrovals]
    exact hget
  audit := haudit
  deciders := hdeciders
  reservations := hreservations

omit [Sha256] in
theorem Idles.governanceMoves {plans : Set RemediationPlan} {w w' : GatewayWorld}
    (h : Idles w w') : GovernanceMoves plans w w' :=
  governanceMoves_of_kept h.plans h.approvals h.audit
    (by rw [h.deciders]; exact List.Subset.refl _) (by rw [h.reservations]; exact List.Subset.refl _)

variable {plans : Set RemediationPlan}

/-- Storing an approval request: a plan that is stored already is stored again. -/
theorem governanceMoves_create (hplans : Set.InjOn calculatePlanHash plans)
    {record : ApprovalRequestRecord} {plan : RemediationPlan} (hplan : plan ∈ plans)
    (hpending : record.status = .PENDING) (w : GatewayWorld) :
    GovernanceMoves plans w { w with
      governance := (w.governance.createApprovalRequest record plan).2 } := by
  rcases createApprovalRequest_cases record plan w.governance with ⟨e, heq⟩ |
    ⟨_, _, -, -, -, -, -, -, heq⟩ | ⟨tenants, hhash, hexisting, hnew, heq⟩
  · rw [heq]
    exact .refl plans w
  · rw [heq]
    exact .refl plans w
  · rw [heq]
    constructor
    case inv =>
      intro h
      constructor
      · intro key plan' hget
        dsimp only at hget
        rw [Dict.get?_set] at hget
        split_ifs at hget with hkey
        · cases hget
          exact hplan
        · exact h.plans_mem hget
      · intro key record' hget hstatus
        dsimp only at hget
        rw [Dict.get?_set] at hget
        split_ifs at hget with hkey
        · cases hget
          exact absurd hpending hstatus
        · exact h.decided hget hstatus
    case plan =>
      intro h key plan' hget
      dsimp only
      rw [Dict.get?_set]
      split_ifs with hkey
      · subst hkey
        -- the digests agree, so the plans do
        have hsame : calculatePlanHash plan' = calculatePlanHash plan :=
          (hexisting plan' hget).trans hhash.symm
        rw [hplans (h.plans_mem hget) hplan hsame]
      · exact hget
    case approval =>
      intro key record' hget _
      dsimp only
      rw [Dict.get?_set_ne]
      · exact hget
      · rintro rfl
        rw [hnew] at hget
        cases hget
    case audit => exact id
    case deciders => exact List.Subset.refl _
    case reservations => exact List.Subset.refl _

omit [Sha256] in
/-- Storing a first decision: it is by another user, with a role for it. -/
theorem governanceMoves_decide {identity : VerifiedIdentity} (hidentity : identity.WellFormed)
    (hkind : identity.kind = .USER)
    (hrole : .APPROVER ∈ identity.roles ∨ .PLATFORM_ADMIN ∈ identity.roles) {call : DecideCall}
    (hby : call.decidedBy = identity.subject) {w : GatewayWorld}
    {current updated : ApprovalRequestRecord}
    (hget : w.governance.approvals.get? (call.tenantId, call.approvalId) = some current)
    (hpending : current.status = .PENDING) (hrequester : current.requestedBy ≠ call.decidedBy)
    (hvalid : (current.decidedDocument call).modelValidate = .ok updated) :
    GovernanceMoves plans w { w with
      governance := { w.governance with
        approvals := w.governance.approvals.set (call.tenantId, call.approvalId) updated }
      deciders := ((call.tenantId, call.approvalId), identity) :: w.deciders } where
  inv h := by
    refine ⟨h.plans_mem, ?_⟩
    intro key record hget' hstatus
    dsimp only at hget' ⊢
    rw [Dict.get?_set] at hget'
    split_ifs at hget' with hkey
    · obtain ⟨decidedBy, comment, hchecked, -, hfields⟩ :=
        ApprovalRequestFields.modelValidate_eq_ok.mp hvalid
      cases hget'
      refine ⟨identity, by rw [hkey]; exact List.mem_cons_self, hkind, hrole, ?_, ?_⟩
      · -- the subject has no blanks around it, so it is stored as it is
        rw [show (current.decidedDocument call).decidedBy = some identity.subject from
          congrArg some hby, nonEmptyStrOrNone, hidentity.1] at hchecked
        cases hchecked
        rw [hfields]
      · rw [hfields, ← hby]
        exact hrequester.symm
    · obtain ⟨decider, hmem, hdecided⟩ := h.decided hget' hstatus
      exact ⟨decider, List.mem_cons_of_mem _ hmem, hdecided⟩
  plan _ _ _ hget := hget
  approval hget' hstatus := by
    dsimp only
    rw [Dict.get?_set_ne]
    · exact hget'
    · rintro rfl
      rw [hget] at hget'
      cases hget'
      exact hstatus hpending
  audit := id
  deciders := List.subset_cons_self _ _
  reservations := List.Subset.refl _

/-! ## The triples -/

/-- A request moves governance as the others may rely on, and calls its tool only on evidence. -/
structure GovernanceGuarantee (gateway : ToolGateway) (plans : Set RemediationPlan)
    (request : GatewayRequest) (w w' : GatewayWorld) : Prop where
  moves : GovernanceMoves plans w w'
  call : ∀ id execution, request = .execute id execution → w'.patches ≠ w.patches →
    Governed gateway id execution w

/-- A property that others cannot take away. -/
def GovernanceStable (plans : Set RemediationPlan) (P : GatewayWorld → Prop) : Prop :=
  ∀ {w w'}, P w → GovernanceMoves plans w w' → P w'

abbrev Governs {α : Type} (gateway : ToolGateway) (plans : Set RemediationPlan)
    (request : GatewayRequest) (Q : Except GatewayExn α → GatewayWorld → Prop)
    (p : GatewayAction α) (w : GatewayWorld) : Prop :=
  p.RG (governanceRely plans) (GovernanceGuarantee gateway plans request) Q w

variable {gateway : ToolGateway} {request : GatewayRequest} {w : GatewayWorld}

omit [Sha256] in
theorem governanceInv_stable : GovernanceStable plans (GovernanceInv plans) :=
  fun h hmoves => hmoves.inv h

omit [Sha256] in
theorem true_stable : GovernanceStable plans fun _ => True := fun _ _ => trivial

omit [Sha256] in
theorem enforce_of_allow {α : Type} {decision : PolicyDecision} {result : α}
    (h : decision.effect = .ALLOW) : enforce decision result = .ret result := by
  unfold enforce
  rw [h, if_neg (by decide), if_neg (by decide)]

theorem audit_reserveExecution (call : ReserveCall) (repo : GovernanceRepository) :
    (repo.reserveExecution call).2.audit = repo.audit := by
  rcases reserveExecution_cases call repo with ⟨e, heq⟩ | ⟨_, _, -, -, -, -, -, heq⟩ |
    ⟨_, _, -, -, -, -, -, heq⟩ | ⟨_, -, -, heq⟩
  all_goals rw [heq]

omit [Sha256] in
theorem audit_reportExecution (tenantId changeId executionId : String) (report : ExecutionReport)
    (repo : GovernanceRepository) :
    (repo.reportExecution tenantId changeId executionId report).2.audit = repo.audit := by
  rcases reportExecution_cases tenantId changeId executionId report repo with ⟨e, heq⟩ |
    ⟨_, _, _, -, -, -, heq⟩
  all_goals rw [heq]

theorem governanceMoves_reserve {w w' : GatewayWorld} {call : ReserveCall}
    (hgovernance : w'.governance = (w.governance.reserveExecution call).2)
    (hdeciders : w'.deciders = w.deciders) (hreservations : w.reservations ⊆ w'.reservations) :
    GovernanceMoves plans w w' := by
  obtain ⟨hplans, happrovals⟩ := governed_reserveExecution call w.governance
  refine governanceMoves_of_kept ?_ ?_ ?_ ?_ hreservations
  · rw [hgovernance, hplans]
  · rw [hgovernance, happrovals]
  · intro key event hget
    rw [hgovernance, audit_reserveExecution]
    exact hget
  · rw [hdeciders]
    exact List.Subset.refl _

/-- The plan that the policy is asked about is stored, and stays. -/
structure PlanStored (plans : Set RemediationPlan) (intent : ToolIntent) (plan : RemediationPlan)
    (w : GatewayWorld) : Prop where
  inv : GovernanceInv plans w
  plan : w.governance.plans.get? (intent.tenantId, intent.changeId, intent.planId) = some plan

omit [Sha256] in
theorem planStored_stable {intent : ToolIntent} {plan : RemediationPlan} :
    GovernanceStable plans (PlanStored plans intent plan) :=
  fun h hmoves => ⟨hmoves.inv h.inv, hmoves.plan h.inv h.plan⟩

/-- The policy has allowed an action with its stored plan. -/
structure Evaluated (plans : Set RemediationPlan) (request : ExecutionRequest)
    (registration : ToolRegistration) (result : PolicyDecision × Option Approval)
    (w : GatewayWorld) : Prop where
  approvalRequired : result.1.approvalRequired = true
  passed : ∃ input : PolicyInput, input.intent = request.intent ∧ input.tool = registration ∧
    input.approval = result.2 ∧ input.approvalRequired = true ∧ input.Passed ∧
    PlanStored plans request.intent input.plan w
  audited : Audited request w

theorem evaluated_stable {execution : ExecutionRequest} {registration : ToolRegistration}
    {result : PolicyDecision × Option Approval} :
    GovernanceStable plans (Evaluated plans execution registration result) := by
  intro w w' h hmoves
  obtain ⟨input, hintent, htool, happroval, hrequired, hpassed, hstored⟩ := h.passed
  obtain ⟨key, event, hget, hevent⟩ := h.audited
  exact ⟨h.approvalRequired, ⟨input, hintent, htool, happroval, hrequired, hpassed,
    planStored_stable hstored hmoves⟩, ⟨key, event, hmoves.audit hget, hevent⟩⟩

omit [Sha256] in
theorem getPlan_eq_ok {repo : GovernanceRepository} {tenantId changeId planId : String}
    {plan : RemediationPlan} (h : repo.getPlan tenantId changeId planId = .ok plan) :
    repo.plans.get? (tenantId, changeId, planId) = some plan := by
  unfold getPlan at h
  cases hget : repo.plans.get? (tenantId, changeId, planId) with
  | none =>
    rw [hget] at h
    cases h
  | some plan' =>
    rw [hget] at h
    cases h
    rfl

/-- The evidence stays. -/
theorem governed_stable {id : Nat} {execution : ExecutionRequest} :
    GovernanceStable plans fun w => GovernanceInv plans w ∧ Governed gateway id execution w := by
  rintro w w' ⟨hinv, hgoverned⟩ hmoves
  obtain ⟨plan, step, record, decider, tool, reservedAt, hplan, hhash, hmem, hstep, hrecord,
    happroved, hreserved, hexpires, hdecider, hdecided, hagent, htool, hrisks⟩ := hgoverned.plan
  obtain ⟨key, event, hget, hevent⟩ := hgoverned.audited
  refine ⟨hmoves.inv hinv, ?_, ⟨key, event, hmoves.audit hget, hevent⟩⟩
  have hstatus : record.status ≠ .PENDING := by
    rw [happroved.approved]
    decide
  exact ⟨plan, step, record, decider, tool, reservedAt, hmoves.plan hinv hplan, hhash, hmem, hstep,
    hmoves.approval hrecord hstatus, happroved, hmoves.reservations hreserved, hexpires,
    hmoves.deciders hdecider, hdecided, hagent, htool, hrisks⟩

/-- What the policy and the reservation have checked is the evidence. -/
theorem governed_of_reserve {id : Nat} {execution : ExecutionRequest}
    {registration : ToolRegistration}
    (htool : getTool gateway.registry execution.intent.toolName = some registration)
    {call : ReserveCall} (hintent : call.intent = execution.intent)
    (hw : Evaluated plans execution registration (call.decision, call.approval) w)
    {reservation : ExecutionReservation}
    (hreserve : (w.governance.reserveExecution call).1 = .ok reservation)
    (hreserved : (id, call.now) ∈ w.reservations) : Governed gateway id execution w := by
  obtain ⟨approval, record, happroval, hrecord, has, hexpires, hscope, hhash⟩ :=
    approval_of_reserveExecution hw.approvalRequired hreserve
  obtain ⟨input, hinput, hregistration, hinputApproval, hrequired, hpassed, hstored⟩ := hw.passed
  obtain ⟨step, hmem, hstep, hrisk⟩ := hpassed.step
  obtain ⟨approval', happroval', hvalid⟩ := hpassed.approval hrequired
  obtain rfl : approval' = approval :=
    Option.some.inj (happroval'.symm.trans (hinputApproval.trans happroval))
  obtain ⟨hstatus, -, htenant, hchange, hplan, -, hversion, -, hdecidedBy, -⟩ :=
    asApproval_eq_some has
  have hdecision : record.status ≠ .PENDING := by
    rw [hstatus]
    decide
  rw [hintent] at hrecord hscope hhash
  rw [hinput] at hstep
  obtain ⟨decider, hdecider, hdecided⟩ := hstored.inv.decided hrecord hdecision
  have happrover := hvalid.approver
  rw [hinput] at happrover
  have hsame : decider.subject = approval'.approvedBy :=
    Option.some.inj (hdecided.decided.symm.trans hdecidedBy)
  constructor
  case plan =>
    refine ⟨input.plan, step, record, decider, registration, call.now, hstored.plan, ?_, hmem,
      hstep, hrecord, ?_, hreserved, hexpires, hdecider, hdecided, ?_, htool,
      RiskLevel.order_lt_critical hrisk, ?_⟩
    · rw [hpassed.planHash, hinput]
    · constructor
      case tenantId => rw [← htenant, hvalid.tenantId, hinput]
      case changeId => rw [← hchange, hvalid.changeId, hinput]
      case planId => rw [← hplan, hvalid.planId, hinput]
      case planHash => exact hhash
      case planVersion_eq => rw [← hversion, hvalid.planVersion]
      case approved => exact hstatus
      case scope => exact hscope
    · rw [hsame]
      exact happrover
    · have htoolRisk := hpassed.tool
      rw [hregistration] at htoolRisk
      exact RiskLevel.order_lt_critical htoolRisk
  case audited => exact hw.audited

namespace Governs

variable {α : Type} {P : GatewayWorld → Prop}

/-- An action that does not call the tool keeps what is stable. -/
theorem atomic {f : GatewayWorld → Except GatewayExn α × GatewayWorld}
    (hpatches : ∀ w, (f w).2.patches = w.patches) (hP : GovernanceStable plans P)
    (hmoves : ∀ w, GovernanceMoves plans w (f w).2) (hw : P w) :
    Governs gateway plans request (fun _ t => P t) (.atomic f) w := by
  refine Prog.RG.atomic fun t ht => ⟨⟨hmoves t, ?_⟩, fun t' ht' => ?_⟩
  · intro id execution _ hne
    exact absurd (hpatches t) hne
  · exact hP (hP (hP hw ht) (hmoves t)) ht'

theorem bystand {p : GatewayAction α} (hp : Bystands p) (hP : GovernanceStable plans P) (hw : P w) :
    Governs gateway plans request (fun _ t => P t) p w :=
  hp.keeps (fun h => ⟨h.governanceMoves, fun _ _ _ hne => absurd h.patches hne⟩) hP
    (fun ht h => hP ht h.governanceMoves) hw

theorem any {p : GatewayAction α} (hp : Bystands p) :
    Governs gateway plans request (fun _ _ => True) p w := bystand hp true_stable trivial

/-! ### Approval requests and decisions -/

theorem create (hplans : Set.InjOn calculatePlanHash plans) {creation : CreationRequest}
    (hplan : creation.body.plan ∈ plans) :
    Governs gateway plans request (fun _ _ => True) (createApproval gateway creation) w := by
  unfold createApproval
  dsimp only
  split_ifs
  · exact fun _ _ => trivial
  · exact fun _ _ => trivial
  · refine (any (Bystands.gatewayNow gateway)).bind ?_ fun _ _ _ => trivial
    intro createdAt t _
    split_ifs with hexpires hlate
    · exact fun _ _ => trivial
    · refine (any (Bystands.read _)).bind ?_ fun _ _ _ => trivial
      intro change t _
      split_ifs
      · exact fun _ _ => trivial
      · exact fun _ _ => trivial
      · have hcreate : Governs gateway plans request (fun _ _ => True) (createAction
            (creation.body.record creation.identity.subject createdAt hexpires)
            creation.body.plan) t :=
          atomic (fun _ => rfl) true_stable (governanceMoves_create hplans hplan rfl) trivial
        refine hcreate.bind ?_ fun _ _ _ => trivial
        intro stored t _
        split_ifs
        · exact any (Bystands.bind (Bystands.auditApproval _ _ _ _ _ _) fun _ => Bystands.ret _)
        · exact fun _ _ => trivial
    · exact fun _ _ => trivial

theorem decide {decision : DecisionRequest} (hidentity : decision.identity.WellFormed) :
    Governs gateway plans request (fun _ _ => True) (decideApprovalRequest gateway decision) w := by
  unfold decideApprovalRequest
  dsimp only
  unfold requireRoles
  split_ifs with hroles
  · exact fun _ _ => trivial
  · obtain ⟨hkind, hany⟩ := not_or.mp hroles
    have hkind := of_not_not hkind
    have hrole : .APPROVER ∈ decision.identity.roles ∨ .PLATFORM_ADMIN ∈ decision.identity.roles := by
      obtain ⟨role, hmem, hcontains⟩ := List.any_eq_true.mp (of_not_not hany)
      simp only [List.contains_eq_mem, List.mem_cons, List.not_mem_nil, or_false,
        decide_eq_true_eq] at hcontains
      rcases hcontains with rfl | rfl
      · exact Or.inl hmem
      · exact Or.inr hmem
    refine (any (Bystands.gatewayNow gateway)).bind ?_ fun _ _ _ => trivial
    intro timestamp t _
    have hdecide : ∀ call : DecideCall, call.decidedBy = decision.identity.subject →
        Governs gateway plans request (fun _ _ => True) (decideAction decision.identity call) t := by
      intro call hby
      refine atomic ?_ true_stable ?_ trivial
      · intro w
        dsimp only
        split <;> rfl
      · intro w
        rcases decideApproval_cases call w.governance with ⟨e, heq⟩ | ⟨current, -, -, -, heq⟩ |
          ⟨current, updated, hget, hpending, -, -, hrequester, hvalid, heq⟩
        · simp only [heq]
          exact .refl plans w
        · simp only [heq]
          exact governanceMoves_of_kept rfl rfl id (List.subset_cons_self _ _)
            (List.Subset.refl _)
        · simp only [heq]
          exact governanceMoves_decide hidentity hkind hrole hby hget hpending hrequester hvalid
    refine (hdecide _ rfl).bind ?_ fun _ _ _ => trivial
    intro record t _
    exact any (Bystands.bind (Bystands.auditApproval _ _ _ _ _ _) fun _ =>
      Bystands.bind (Bystands.notifyCallback _ _) fun _ => Bystands.ret _)

/-! ### The policy and the reservation -/

/-- An event that is appended is stored. -/
theorem auditAction (event : AuditEvent) (hP : GovernanceStable plans P) (hw : P w) :
    Governs gateway plans request
      (fun r t => P t ∧ ∀ u, r = .ok u → ∃ key, t.governance.audit.get? key = some event)
      (auditAction event) w := by
  refine Prog.RG.atomic fun t ht => ?_
  have hmoves : GovernanceMoves plans t
      { t with governance := (t.governance.recordAudit event).2 } := (idles_recordAudit event t).governanceMoves
  refine ⟨⟨hmoves, fun _ _ _ hne => absurd rfl hne⟩, fun t' ht' => ⟨?_, ?_⟩⟩
  · exact hP (hP (hP hw ht) hmoves) ht'
  · intro u hu
    rcases recordAudit_cases event t.governance with ⟨e, heq⟩ | heq
    · simp only [heq] at hu
      cases hu
    · refine ⟨(event.tenantId, event.auditEventId), ht'.audit ?_⟩
      simp only [heq]
      exact Dict.get?_set_self _ _ _

/-- The audit event of an allowed action is stored. -/
theorem auditTool_allowed (execution : ExecutionRequest) (decision : PolicyDecision) (output : Json)
    (summary : String) (now : Time) (hP : GovernanceStable plans P) (hw : P w) :
    Governs gateway plans request (fun r t => P t ∧ ∀ u, r = .ok u → Audited execution t)
      (auditTool gateway execution "TOOL_POLICY_ALLOWED" decision output .SUCCESS summary now) w := by
  unfold auditTool
  refine (bystand (Bystands.gatewayUuid gateway) hP hw).bind ?_ ?_
  · intro hex t ht
    refine (auditAction _ hP ht).mono fun r t' h => ⟨h.1, fun u hu => ?_⟩
    obtain ⟨key, hget⟩ := h.2 u hu
    exact ⟨key, _, hget, ⟨rfl, rfl, rfl, rfl, rfl, rfl, rfl⟩⟩
  · intro e t ht
    exact ⟨ht, fun u hu => by cases hu⟩

theorem evaluatePolicy {execution : ExecutionRequest}
    (htenant : execution.identity.tenantId = execution.intent.tenantId)
    {registration : ToolRegistration} (hmutating : registration.mutating = true)
    (change : ChangeRecord) (hw : GovernanceInv plans w) :
    Governs gateway plans request
      (fun r t => ∀ result, r = .ok result → Evaluated plans execution registration result t)
      (evaluatePolicy gateway execution registration change) w := by
  unfold ChangeOps.evaluatePolicy
  -- the plan that the policy is asked about
  have hplan : Governs gateway plans request
      (fun r t => ∀ plan, r = .ok plan → PlanStored plans execution.intent plan t)
      (readGovernance (·.getPlan execution.identity.tenantId execution.intent.changeId
        execution.intent.planId)) w := by
    refine Prog.RG.atomic fun t ht => ⟨⟨.refl plans t, fun _ _ _ hne => absurd rfl hne⟩, ?_⟩
    intro t' ht' plan hr
    have hinv := ht.inv hw
    rw [htenant] at hr
    exact planStored_stable ⟨hinv, getPlan_eq_ok hr⟩ ht'
  refine hplan.bind ?_ fun _ _ _ _ h => by cases h
  intro plan t hstored
  refine (bystand ?_ planStored_stable (hstored plan rfl)).bind ?_ fun _ _ _ _ h => by cases h
  · -- the approval that the request names, if it names one
    cases execution.approvalId with
    | none => exact Bystands.ret none
    | some approvalId => exact Bystands.bind (Bystands.read _) fun record => Bystands.ofExcept _
  intro approval t hstored
  refine (bystand (Bystands.gatewayNow gateway) planStored_stable hstored).bind ?_
    fun _ _ _ _ h => by cases h
  intro evaluatedAt t hstored
  refine (bystand (Bystands.gatewayUuid gateway) planStored_stable hstored).bind ?_
    fun _ _ _ _ h => by cases h
  intro hex t hstored
  generalize hinput : PolicyInput.mk execution.identity execution.intent change plan registration
    approval = input
  generalize hdecision : input.evaluate ("decision_" ++ hex) evaluatedAt = decision
  dsimp only
  by_cases hallow : decision.effect = .ALLOW
  · simp only [hallow, decide_true, if_true]
    refine (auditTool_allowed execution decision decision.modelDump _ evaluatedAt planStored_stable
      hstored).bind ?_ fun _ _ _ _ h => by cases h
    rintro u t ⟨hstored, haudited⟩
    rw [enforce_of_allow hallow]
    intro t' ht' result hresult
    cases hresult
    refine evaluated_stable ?_ ht'
    rw [← hdecision, PolicyInput.evaluate_allow_iff] at hallow
    have hrequired : input.approvalRequired = true := by
      refine PolicyInput.approvalRequired_of_mutating ?_
      rw [← hinput]
      exact hmutating
    constructor
    case approvalRequired =>
      rw [← hdecision]
      exact hrequired
    case passed =>
      refine ⟨input, ?_, ?_, ?_, hrequired, PolicyInput.passed_of_failures_nil hallow, ?_⟩
      all_goals rw [← hinput]
      exact hstored
    case audited => exact haudited u rfl
  · -- the request ends here
    refine (any (Bystands.auditTool gateway execution _ decision _ _ _ evaluatedAt)).bind ?_
      fun _ _ _ _ h => by cases h
    intro u t _
    unfold enforce
    rw [if_pos hallow]
    split_ifs <;> exact fun _ _ _ h => by cases h

/-- **The reservation** checks the approval again, so that everything is there. -/
theorem reserve {id : Nat} {execution : ExecutionRequest} {registration : ToolRegistration}
    (htool : getTool gateway.registry execution.intent.toolName = some registration)
    {call : ReserveCall} (hintent : call.intent = execution.intent)
    (hw : Evaluated plans execution registration (call.decision, call.approval) w) :
    Governs gateway plans request
      (fun r t => ∀ reservation, r = .ok reservation → reservation.replayed = false →
        GovernanceInv plans t ∧ Governed gateway id execution t)
      (reserveAction id call) w := by
  refine Prog.RG.atomic fun t ht => ?_
  cases hresult : (t.governance.reserveExecution call).1 with
  | error e =>
    simp only [hresult]
    refine ⟨⟨governanceMoves_reserve rfl rfl (List.Subset.refl _), fun _ _ _ hne => absurd rfl hne⟩, ?_⟩
    intro t' _ reservation h
    cases h
  | ok reservation =>
    simp only [hresult]
    constructor
    · refine ⟨governanceMoves_reserve rfl rfl ?_, fun _ _ _ hne => absurd rfl hne⟩
      dsimp only
      split_ifs
      · exact List.Subset.refl _
      · exact List.subset_cons_self _ _
    · intro t' ht' reservation' hr hreplayed
      cases hr
      simp only [hreplayed, Bool.false_eq_true, if_false] at ht'
      -- the state in which only the journal has been written yet
      have hevaluated : Evaluated plans execution registration (call.decision, call.approval)
          { t with reservations := (id, call.now) :: t.reservations } :=
        evaluated_stable (evaluated_stable hw ht)
          (governanceMoves_of_kept rfl rfl (fun hget => hget) (List.Subset.refl _)
            (List.subset_cons_self _ _))
      have hgoverned := governed_of_reserve htool hintent hevaluated hresult List.mem_cons_self
      obtain ⟨input, -, -, -, -, -, hstored⟩ := hevaluated.passed
      have hmoves : GovernanceMoves plans { t with reservations := (id, call.now) :: t.reservations }
          { t with
            governance := (t.governance.reserveExecution call).2
            log := .granted id (call.intent.tenantId, reservation.record.executionId)
              reservation.record.attemptCount :: t.log
            reservations := (id, call.now) :: t.reservations } :=
        governanceMoves_reserve rfl rfl (List.Subset.refl _)
      exact governed_stable ⟨hstored.inv, hgoverned⟩ (hmoves.trans ht')

/-! ### The execution -/

/-- The call of the tool, on evidence. -/
theorem callTool {id : Nat} {execution : ExecutionRequest}
    (hw : GovernanceInv plans w ∧ Governed gateway id execution w) :
    Governs gateway plans (.execute id execution) (fun _ _ => True) (callTool id) w := by
  refine Prog.RG.atomic fun t ht => ⟨⟨?_, ?_⟩, fun _ _ => trivial⟩
  · exact governanceMoves_of_kept rfl rfl (fun hget => hget) (List.Subset.refl _)
      (List.Subset.refl _)
  · intro id' execution' heq _
    cases heq
    exact (governed_stable hw ht).2

theorem reserveAndExecute {id : Nat} {execution : ExecutionRequest}
    {registration : ToolRegistration}
    (htool : getTool gateway.registry execution.intent.toolName = some registration)
    (arguments : FieldPatchArguments) {decision : PolicyDecision} {approval : Option Approval}
    (hw : Evaluated plans execution registration (decision, approval) w) :
    Governs gateway plans (.execute id execution) (fun _ _ => True)
      (reserveAndExecute gateway id execution registration arguments decision approval) w := by
  unfold ChangeOps.reserveAndExecute
  refine (bystand (Bystands.gatewayNow gateway) evaluated_stable hw).bind ?_ fun _ _ _ => trivial
  intro now t ht
  refine (reserve htool rfl ht).bind ?_ fun _ _ _ => trivial
  intro reservation t ht
  split_ifs with hreplayed
  · exact any (Bystands.bind (Bystands.replay _ _ _ _) fun _ => Bystands.ret _)
  · have hgoverned := ht reservation rfl (Bool.eq_false_iff.mpr hreplayed)
    have hexecute : Governs gateway plans (.execute id execution) (fun _ _ => True)
        (executeTool gateway id execution registration arguments) t := by
      unfold ChangeOps.executeTool
      split
      · exact fun _ _ => trivial
      · exact (callTool hgoverned).bind (fun _ _ _ => any (Bystands.read _)) fun _ _ _ => trivial
    refine hexecute.andThen ?_
    intro r t _
    split <;> exact fun _ _ => trivial

theorem reportOutcome (id : Nat) (execution : ExecutionRequest) (decision : PolicyDecision)
    (outcome : QuotaOutcome) :
    Governs gateway plans request (fun _ _ => True)
      (reportOutcome gateway id execution decision outcome) w := by
  have hreport : ∀ {held report t}, Governs gateway plans request (fun _ _ => True)
      (reportAction id execution.intent held report) t := by
    intro held report t
    refine atomic ?_ true_stable ?_ trivial
    · intro w
      dsimp only
      split <;> rfl
    · intro w
      obtain ⟨hplans, happrovals⟩ := governed_reportExecution execution.intent.tenantId
        execution.intent.changeId held.executionId report w.governance
      have haudit := audit_reportExecution execution.intent.tenantId execution.intent.changeId
        held.executionId report w.governance
      dsimp only
      split
      all_goals
        refine governanceMoves_of_kept hplans happrovals (fun hget => ?_) (List.Subset.refl _)
          (List.Subset.refl _)
        rw [haudit]
        exact hget
  cases outcome with
  | replayed result => exact any (Bystands.ret result)
  | executed held output =>
    refine (any (Bystands.gatewayNow gateway)).bind (fun _ _ _ => ?_) fun _ _ _ => trivial
    refine hreport.bind (fun completed _ _ => ?_) fun _ _ _ => trivial
    refine any (Bystands.bind (Bystands.auditTool _ _ _ _ _ _ _ _) fun _ => ?_)
    split
    · exact Bystands.ret _
    · exact Bystands.raise _
  | adapterFailed held code detail transient =>
    refine (any (Bystands.gatewayNow gateway)).bind (fun _ _ _ => ?_) fun _ _ _ => trivial
    refine hreport.bind (fun _ _ _ => ?_) fun _ _ _ => trivial
    exact any (Bystands.bind (Bystands.auditTool _ _ _ _ _ _ _ _) fun _ => Bystands.raise _)

/-- **The handler** of an execution. -/
theorem execute (hregistry : gateway.registry = defaultTools) (id : Nat)
    (execution : ExecutionRequest) (hw : GovernanceInv plans w) :
    Governs gateway plans (.execute id execution) (fun _ _ => True)
      (evaluateAndExecute gateway id execution) w := by
  unfold evaluateAndExecute
  dsimp only
  split_ifs with hkind htenant
  · exact fun _ _ => trivial
  · exact fun _ _ => trivial
  · split
    · exact any (Bystands.refuse _ _ _ _ _ _)
    next registration htool =>
      split
      · exact any (Bystands.refuse _ _ _ _ _ _)
      next arguments _ =>
        have hmutating : registration.mutating = true := by
          have hdefault := htool
          rw [hregistry] at hdefault
          exact mutating_of_getTool hdefault
        have hread : Governs gateway plans (.execute id execution) (fun _ t => GovernanceInv plans t)
            (readChangeFor id execution.identity.tenantId execution.intent.changeId) w := by
          refine atomic (fun _ => rfl) governanceInv_stable ?_ hw
          exact fun t => governanceMoves_of_kept rfl rfl (fun hget => hget) (List.Subset.refl _)
            (List.Subset.refl _)
        refine hread.bind ?_ fun _ _ _ => trivial
        intro change t ht
        refine (evaluatePolicy (of_not_not htenant) hmutating change ht).bind ?_ fun _ _ _ => trivial
        rintro ⟨decision, approval⟩ t ht
        have hbody : Governs gateway plans (.execute id execution) (fun _ _ => True)
            (withQuota gateway (execution.intent.tenantId, execution.intent.toolName)
              (ChangeOps.reserveAndExecute gateway id execution registration arguments decision
                approval)) t := by
          refine (bystand (Bystands.acquireQuota _ _) evaluated_stable (ht _ rfl)).bind ?_
            fun _ _ _ => trivial
          intro _ t ht
          refine (reserveAndExecute htool arguments ht).andThen ?_
          intro r t _
          exact any (Bystands.bind (Bystands.releaseQuota _) fun _ => Bystands.ofExcept r)
        exact hbody.bind (fun outcome _ _ => reportOutcome id execution decision outcome)
          fun _ _ _ => trivial

end Governs

/-! ## Every interleaving -/

/-- The handler of a request; what it returns is left out. -/
def handleRequest (gateway : ToolGateway) : GatewayRequest → GatewayAction Unit
  | .create request => (createApproval gateway request).bind fun _ => .ret ()
  | .decide request => (decideApprovalRequest gateway request).bind fun _ => .ret ()
  | .execute id request => (evaluateAndExecute gateway id request).bind fun _ => .ret ()

/-- Well-formed identities and plans among `plans`, at any time; in between the changes, and all
else but the governance repository, may become whatever they will. -/
def gatewayRequests (plans : Set RemediationPlan) :
    Actor GatewayRequest → GatewayWorld → GatewayWorld → Prop
  | .start request, _, _ =>
      request.identity.WellFormed ∧ ∀ plan, request.plan? = some plan → plan ∈ plans
  | .by _, _, _ => True
  | .env, w, w' => w'.governance = w.governance ∧ w'.deciders = w.deciders ∧
      w'.reservations = w.reservations

theorem sound_handleRequest (hregistry : gateway.registry = defaultTools)
    (hplans : Set.InjOn calculatePlanHash plans) :
    Pool.Sound (handleRequest gateway) (gatewayRequests plans) (governanceRely plans)
      (GovernanceGuarantee gateway plans) (fun _ _ _ => True) (GovernanceInv plans) where
  guarantee _ _ _ _ _ _ hg := hg.moves
  environment w w' hok := by
    obtain ⟨hgovernance, hdeciders, hreservations⟩ := hok
    refine governanceMoves_of_kept ?_ ?_ ?_ ?_ ?_
    · rw [hgovernance]
    · rw [hgovernance]
    · intro key event hget
      rw [hgovernance]
      exact hget
    · rw [hdeciders]
      exact List.Subset.refl _
    · rw [hreservations]
      exact List.Subset.refl _
  invariant _ _ hinv hmoves := hmoves.inv hinv
  triple request w _ hinv hok := by
    refine Prog.RG.start ?_
    cases request with
    | create creation =>
      exact (Governs.create hplans (hok.2 _ rfl)).bind (fun _ _ _ _ _ => trivial) fun _ _ _ => trivial
    | decide decision =>
      exact (Governs.decide hok.1).bind (fun _ _ _ _ _ => trivial) fun _ _ _ => trivial
    | execute id execution =>
      exact (Governs.execute hregistry id execution hinv).bind (fun _ _ _ _ _ => trivial)
        fun _ _ _ => trivial

/-- In every interleaving of requests on an empty repository, with plans whose digests do not
collide, a tool is called only on evidence: its plan, its approval and its audit event are
stored. -/
theorem executesGoverned (gateway : ToolGateway) (hregistry : gateway.registry = defaultTools)
    (plans : Set RemediationPlan) (hplans : Set.InjOn calculatePlanHash plans) {w : GatewayWorld}
    (hempty : w.governance = .empty) {P P' : Pool GatewayRequest GatewayWorld GatewayExn Unit}
    {actor : Actor GatewayRequest} {id : Nat} {execution : ExecutionRequest}
    (hreach : Pool.Reach (handleRequest gateway) (gatewayRequests plans) (.idle w) P)
    (hstep : Pool.Step (handleRequest gateway) P actor P')
    (hok : gatewayRequests plans actor P.state P'.state)
    (hactor : Actor.call? actor = some (.execute id execution))
    (hcall : P'.state.patches ≠ P.state.patches) : Governed gateway id execution P.state := by
  have hinv : GovernanceInv plans w := by
    constructor
    · intro key plan hget
      rw [hempty] at hget
      cases hget
    · intro key record hget
      rw [hempty] at hget
      cases hget
  have hsound := sound_handleRequest hregistry hplans
  rcases (hsound.holds hinv hreach).guarantee hsound hstep hok hactor with heq | hg
  · exact absurd (congrArg GatewayWorld.patches heq) hcall
  · exact hg.call id execution rfl hcall

end

/-! ## An approved action

The workflow service requests the approval, a user gives it, the change begins to execute, and the
agent submits the intent. -/

namespace Evidence

open Overlap

def service : VerifiedIdentity :=
  { identity with
    subject := "workflow-coordinator"
    kind := .SERVICE
    roles_of_user := Or.inr rfl }

def approver : VerifiedIdentity where
  subject := "user_approver"
  tenantId := "tenant_demo"
  kind := .USER
  roles := [.APPROVER]
  issuedAt := 0
  expiresAt := Time.minutes 60
  issued_lt_expires := identity.issued_lt_expires
  nodup_roles := List.nodup_singleton _
  roles_of_user := Or.inl rfl

def creation : CreationRequest :=
  ⟨service, { Demo.approvalBody with expiresAt := Time.minutes 30 }⟩

def decision : DecisionRequest := ⟨approver, "approval_001", .APPROVED, ⟨1, "Approved."⟩⟩

def plans : Set RemediationPlan := {Demo.gatewayPlan}

abbrev EvidencePool := Pool GatewayRequest GatewayWorld GatewayExn Unit

def handle : GatewayRequest → GatewayAction Unit := handleRequest gateway

/-- Nothing is stored but the change, which awaits its approval. -/
def world : GatewayWorld :=
  { Overlap.world with
    governance := .empty
    changes := InMemoryChangeStateRepository.empty.put { change with
      status := .AWAITING_APPROVAL
      currentPhase := .AWAITING_APPROVAL
      phase_eq := rfl } }

/-- The approval is requested and given. -/
def approved : EvidencePool :=
  Pool.play handle (.idle world)
    (.start (.create creation) :: List.replicate 5 (.move 0 false) ++
      .start (.decide decision) :: List.replicate 5 (.move 1 false))

def executing : EvidencePool :=
  ⟨approved.threads, { approved.state with
    changes := InMemoryChangeStateRepository.empty.put change }⟩

def beforeCall : EvidencePool :=
  Pool.play handle executing
    (.start (.execute 0 request) :: List.replicate 9 (.move 2 false))

def afterCall : EvidencePool := Pool.turn handle beforeCall (.move 2 false)

theorem afterCall_eq :
    (approved.calls.length, beforeCall.calls.length, beforeCall.state.patches,
      afterCall.state.patches) = (2, 3, 0, 1) := by
  decide +kernel

theorem wellFormed : service.WellFormed ∧ approver.WellFormed ∧ identity.WellFormed := by
  unfold VerifiedIdentity.WellFormed nonEmptyStr stripWhitespace
  decide

/-- The requests of the schedules may start. -/
theorem mayStart (w w' : GatewayWorld) : gatewayRequests plans (.start (.create creation)) w w' ∧
    gatewayRequests plans (.start (.decide decision)) w w' ∧
    gatewayRequests plans (.start (.execute 0 request)) w w' := by
  obtain ⟨hservice, happrover, hagent⟩ := wellFormed
  refine ⟨⟨hservice, ?_⟩, ⟨happrover, nofun⟩, ⟨hagent, nofun⟩⟩
  intro plan hplan
  cases hplan
  exact Set.mem_singleton _

theorem reach_beforeCall : Pool.Reach handle (gatewayRequests plans) (.idle world) beforeCall := by
  have happroved : Pool.Reach handle (gatewayRequests plans) (.idle world) approved := by
    refine Pool.reach_play (fun _ _ _ => trivial) _ ?_ _
    intro call w w' hmem
    simp only [List.cons_append, List.mem_cons, List.mem_append, List.mem_replicate,
      Turn.start.injEq, reduceCtorEq, and_false, or_false, false_or] at hmem
    rcases hmem with rfl | rfl
    · exact (mayStart w w').1
    · exact (mayStart w w').2.1
  have henv : Pool.Step handle approved .env executing := .env _ _ _
  have hcall : Pool.Reach handle (gatewayRequests plans) executing beforeCall := by
    refine Pool.reach_play (fun _ _ _ => trivial) _ ?_ _
    intro call w w' hmem
    simp only [List.mem_cons, List.mem_replicate, Turn.start.injEq, reduceCtorEq, and_false,
      or_false] at hmem
    rw [hmem]
    exact (mayStart w w').2.2
  exact (Pool.Reach.tail happroved henv ⟨rfl, rfl, rfl⟩).trans hcall

/-- The third call is the execution. -/
theorem call_beforeCall {call : GatewayRequest} {p : GatewayAction Unit}
    (h : beforeCall.threads[2]? = some (call, p)) : call = .execute 0 request := by
  obtain ⟨happroved, hrest⟩ := Prod.mk.inj afterCall_eq
  obtain ⟨hbefore, -⟩ := Prod.mk.inj hrest
  have hcalls : beforeCall.calls = (Pool.turn handle executing (.start (.execute 0 request))).calls := by
    unfold beforeCall
    rw [Pool.play, Pool.calls_play_replicate]
  have hexecuting : executing.calls = approved.calls := rfl
  rcases Pool.calls_turn_start executing (.execute 0 request) with heq | heq
  · rw [hcalls, heq, hexecuting, happroved] at hbefore
    cases hbefore
  · have hget : beforeCall.calls[2]? = some call := by
      rw [Pool.calls, List.getElem?_map, h]
      rfl
    rw [hcalls, heq, hexecuting, ← happroved, List.getElem?_concat_length] at hget
    exact (Option.some.inj hget).symm

end Evidence

open Evidence Overlap in
/-- The evidence for the approved action, right before its tool is called. -/
theorem executesGoverned_demo : Governed gateway 0 request beforeCall.state := by
  obtain ⟨-, hrest⟩ := Prod.mk.inj afterCall_eq
  obtain ⟨-, hrest⟩ := Prod.mk.inj hrest
  obtain ⟨hbefore, hafter⟩ := Prod.mk.inj hrest
  have hcall : afterCall.state.patches ≠ beforeCall.state.patches := by
    rw [hbefore, hafter]
    decide
  have hne : Pool.turn Evidence.handle beforeCall (.move 2 false) ≠ beforeCall := by
    intro heq
    rw [afterCall, heq] at hcall
    exact hcall rfl
  obtain ⟨call, p, hget, hstep⟩ := Pool.step_of_turn_ne hne
  obtain rfl := call_beforeCall hget
  exact executesGoverned gateway rfl plans (Set.injOn_singleton _ _) rfl reach_beforeCall hstep
    trivial rfl hcall


end ChangeOps
