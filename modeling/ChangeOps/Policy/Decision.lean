import ChangeOps.Contracts.Documents
import ChangeOps.Policy.Scope

/-!
# ChangeOps.Policy — the decision

What `PolicyEngine.evaluate` decides, without the order of its checks: `Authorized` says when an
intent is allowed, `Decides` what the effect is in every case. `evaluate_decides` compares it with
the code; what more risk, less approval and more time can do to a decision follows from it.
-/

namespace ChangeOps

namespace PolicyInput

/-! ## The reference decision -/

section Reference

variable [Sha256]

/-- The approval is a current one of exactly this plan, covers the step, and was given by an
approver other than the agent. -/
structure ApprovedBy (input : PolicyInput) (now : Time) (approval : Approval) : Prop where
  approved : approval.decision = .APPROVED
  decided : approval.approvedAt ≤ now
  unexpired : now < approval.expiresAt
  tenant : approval.tenantId = input.intent.tenantId
  change : approval.changeId = input.intent.changeId
  plan : approval.planId = input.intent.planId ∧ input.intent.planId = input.plan.planId
  hash : approval.planHash = input.intent.planHash ∧
    input.intent.planHash = calculatePlanHash input.plan
  version : approval.planVersion = input.plan.version ∧
    input.plan.version = input.change.planVersion
  environment : approval.environment = input.change.environment
  step : input.intent.stepId ∈ approval.scope
  approver : UserRole.APPROVER ∈ approval.approvedByRoles ∨
    UserRole.PLATFORM_ADMIN ∈ approval.approvedByRoles
  separate : approval.approvedBy ≠ input.intent.agentIdentity

/-- Caller, intent, change and plan are about the same tenant, change, workflow and plan. -/
structure ScopeMatches (input : PolicyInput) : Prop where
  subject : input.identity.subject = input.intent.agentIdentity
  tenant : input.identity.tenantId = input.intent.tenantId
  change : input.change.tenantId = input.intent.tenantId ∧
    input.change.changeId = input.intent.changeId
  workflow : input.change.workflowExecutionId = some input.intent.workflowExecutionId
  changePlan : input.change.planVersion = input.plan.version ∧
    input.change.planHash = some input.intent.planHash
  planScope : input.plan.tenantId = input.intent.tenantId ∧
    input.plan.changeId = input.intent.changeId
  plan : input.plan.planId = input.intent.planId ∧
    calculatePlanHash input.plan = input.intent.planHash

/-- The intent is the selected step, and for its tool. -/
structure StepMatches (input : PolicyInput) (step : RemediationStep) : Prop where
  agent : step.agentId = input.intent.agentIdentity
  tool : step.toolName = input.intent.toolName ∧ step.toolName = input.tool.toolName
  resource : step.resource = input.intent.resource
  arguments : step.arguments.pyEq input.intent.arguments = true
  key : step.idempotencyKey = input.intent.idempotencyKey

/-- The registered tool is for the agent, the action and the resource. -/
structure ToolMatches (input : PolicyInput) : Prop where
  owner : input.tool.owningAgentId = input.intent.agentIdentity
  action : input.tool.action = input.intent.action
  resource : resourceInScope input.tool input.intent.tenantId input.intent.resource = true

/-- When an intent is allowed. -/
structure Authorized (input : PolicyInput) (now : Time) : Prop where
  unexpired : now < input.identity.expiresAt
  agent : input.identity.kind = .AGENT
  scope : input.ScopeMatches
  step : ∃ step, input.step? = some step ∧ input.StepMatches step
  tool : input.ToolMatches
  executing : input.change.status = .EXECUTING
  environment : input.change.environment ∈ input.tool.allowedEnvironments
  risk : max input.tool.riskLevel.order input.stepRisk.order < RiskLevel.CRITICAL.order
  approval : input.approvalRequired = true →
    ∃ approval, input.approval = some approval ∧ input.ApprovedBy now approval

/-- The risk is critical, or a mutating tool is not for the environment. -/
def Blocked (input : PolicyInput) : Prop :=
  RiskLevel.CRITICAL.order ≤ max input.tool.riskLevel.order input.stepRisk.order ∨
    (input.tool.mutating = true ∧ input.change.environment ∉ input.tool.allowedEnvironments)

/-- An approval is required and is not there. -/
def Unapproved (input : PolicyInput) (now : Time) : Prop :=
  input.approvalRequired = true ∧
    ¬ ∃ approval, input.approval = some approval ∧ input.ApprovedBy now approval

/-- The effect that an intent has. -/
structure Decides (input : PolicyInput) (now : Time) (effect : PolicyEffect) : Prop where
  allow : effect = .ALLOW ↔ input.Authorized now
  block : effect = .BLOCK_SECURITY ↔ ¬ input.Authorized now ∧ input.Blocked
  approval : effect = .REQUIRE_APPROVAL ↔
    ¬ input.Authorized now ∧ ¬ input.Blocked ∧ input.Unapproved now
  deny : effect = .DENY ↔ ¬ input.Authorized now ∧ ¬ input.Blocked ∧ ¬ input.Unapproved now

end Reference

/-! ## The checks are the reference -/

theorem approvalValid_iff [Sha256] (input : PolicyInput) (now : Time) :
    input.approvalValid now = true ↔
      ∃ approval, input.approval = some approval ∧ input.ApprovedBy now approval := by
  unfold approvalValid
  cases input.approval with
  | none => simp
  | some approval =>
    simp only [Bool.and_eq_true, decide_eq_true_eq, List.contains_iff_mem, bne_iff_ne, ne_eq,
      Option.some.injEq, exists_eq_left', holdsApproverRole, Bool.or_eq_true]
    constructor
    · rintro ⟨⟨⟨⟨⟨⟨⟨⟨⟨⟨⟨h1, h2⟩, h3⟩, h4⟩, h5⟩, h6⟩, h7⟩, h8⟩, h9⟩, h10⟩, h11⟩, h12⟩
      exact ⟨h1, h10, h9, h2, h3, h4, h5, h6, h7, h8, h11, h12⟩
    · rintro ⟨h1, h10, h9, h2, h3, h4, h5, h6, h7, h8, h11, h12⟩
      exact ⟨⟨⟨⟨⟨⟨⟨⟨⟨⟨⟨h1, h2⟩, h3⟩, h4⟩, h5⟩, h6⟩, h7⟩, h8⟩, h9⟩, h10⟩, h11⟩, h12⟩

/-- `max` finds the higher risk. -/
theorem computedRisk_critical_iff (input : PolicyInput) :
    input.computedRisk = .CRITICAL ↔
      RiskLevel.CRITICAL.order ≤ max input.tool.riskLevel.order input.stepRisk.order := by
  unfold computedRisk
  cases input.tool.riskLevel <;> cases input.stepRisk <;> decide

section Checks

variable [Sha256] {input : PolicyInput} {now : Time}

theorem scopeFailures_eq_nil_iff : input.scopeFailures now = [] ↔
    now < input.identity.expiresAt ∧ input.identity.kind = .AGENT ∧ input.ScopeMatches ∧
      input.change.status = .EXECUTING := by
  simp only [scopeFailures, List.append_eq_nil_iff, failWhen_eq_nil_iff, decide_eq_false_iff_not,
    Bool.or_eq_false_iff, ne_eq, not_not, Nat.not_le]
  constructor
  · rintro ⟨⟨⟨⟨⟨⟨⟨⟨⟨h1, h2⟩, h3⟩, h4⟩, h5⟩, h6⟩, h7⟩, h8⟩, h9⟩, h10⟩
    exact ⟨h1, h2, ⟨h3, h4, h5, h6, h8, h9, h10⟩, h7⟩
  · rintro ⟨h1, h2, ⟨h3, h4, h5, h6, h8, h9, h10⟩, h7⟩
    exact ⟨⟨⟨⟨⟨⟨⟨⟨⟨h1, h2⟩, h3⟩, h4⟩, h5⟩, h6⟩, h7⟩, h8⟩, h9⟩, h10⟩

omit [Sha256] in
theorem stepFailures_eq_nil_iff : input.stepFailures = [] ↔
    ∃ step, input.step? = some step ∧ input.StepMatches step := by
  unfold stepFailures
  cases input.step? with
  | none => simp
  | some step =>
    simp only [List.append_eq_nil_iff, failWhen_eq_nil_iff, decide_eq_false_iff_not,
      Bool.or_eq_false_iff, ne_eq, not_not, Bool.not_eq_false', Option.some.injEq, exists_eq_left']
    constructor
    · rintro ⟨⟨⟨⟨h1, h2⟩, h3⟩, h4⟩, h5⟩
      exact ⟨h1, h2, h3, h4, h5⟩
    · rintro ⟨h1, h2, h3, h4, h5⟩
      exact ⟨⟨⟨⟨h1, h2⟩, h3⟩, h4⟩, h5⟩

omit [Sha256] in
theorem toolFailures_eq_nil_iff : input.toolFailures = [] ↔
    input.ToolMatches ∧ input.change.environment ∈ input.tool.allowedEnvironments ∧
      max input.tool.riskLevel.order input.stepRisk.order < RiskLevel.CRITICAL.order := by
  simp only [toolFailures, List.append_eq_nil_iff, failWhen_eq_nil_iff, decide_eq_false_iff_not,
    ne_eq, not_not, Bool.not_eq_false', List.contains_iff_mem, computedRisk_critical_iff, Nat.not_le]
  constructor
  · rintro ⟨⟨⟨⟨h1, h2⟩, h3⟩, h4⟩, h5⟩
    exact ⟨⟨h1, h2, h3⟩, h4, h5⟩
  · rintro ⟨⟨h1, h2, h3⟩, h4, h5⟩
    exact ⟨⟨⟨⟨h1, h2⟩, h3⟩, h4⟩, h5⟩

theorem approvalFailure_iff : (input.approvalRequired && !input.approvalValid now) = true ↔
    input.Unapproved now := by
  rw [Unapproved, ← approvalValid_iff, Bool.and_eq_true, Bool.not_eq_true', Bool.not_eq_true]

/-- No check fails exactly where the intent is authorized. -/
theorem failures_eq_nil_iff : input.failures now = [] ↔ input.Authorized now := by
  have happroval : (input.approvalRequired && !input.approvalValid now) = false ↔
      ¬ input.Unapproved now := by
    rw [← approvalFailure_iff, Bool.not_eq_true]
  simp only [failures, List.append_eq_nil_iff, scopeFailures_eq_nil_iff, stepFailures_eq_nil_iff,
    toolFailures_eq_nil_iff, failWhen_eq_nil_iff, happroval]
  constructor
  · rintro ⟨⟨⟨⟨h1, h2, h3, h4⟩, h5⟩, h6, h7, h8⟩, h9⟩
    refine ⟨h1, h2, h3, h5, h6, h4, h7, h8, fun hrequired => ?_⟩
    by_contra hnone
    exact h9 ⟨hrequired, hnone⟩
  · rintro ⟨h1, h2, h3, h5, h6, h4, h7, h8, h9⟩
    exact ⟨⟨⟨⟨h1, h2, h3, h4⟩, h5⟩, h6, h7, h8⟩, fun h => h.2 (h9 h.1)⟩

omit [Sha256] in
theorem blocked_iff :
    ((!input.tool.allowedEnvironments.contains input.change.environment && input.tool.mutating) ||
      input.computedRisk = .CRITICAL) = true ↔ input.Blocked := by
  rw [Blocked, Bool.or_eq_true, Bool.and_eq_true, Bool.not_eq_true', decide_eq_true_eq,
    computedRisk_critical_iff, or_comm, and_comm, List.contains_eq_mem, decide_eq_false_iff_not]

/-- **The decision.** The effect of an evaluation is the one that the intent has. -/
theorem evaluate_decides (decisionId : String) :
    input.Decides now (input.evaluate decisionId now).effect := by
  have heffect : (input.evaluate decisionId now).effect =
      if input.failures now = [] then .ALLOW else input.failedEffect now := rfl
  rw [heffect, failedEffect]
  by_cases hfailures : input.failures now = []
  · have hauthorized := failures_eq_nil_iff.mp hfailures
    rw [if_pos hfailures]
    exact ⟨by simp [hauthorized], by simp [hauthorized], by simp [hauthorized],
      by simp [hauthorized]⟩
  have hauthorized : ¬ input.Authorized now := fun h => hfailures (failures_eq_nil_iff.mpr h)
  rw [if_neg hfailures]
  split_ifs with hchecks hmissing
  · have hblocked := blocked_iff.mp hchecks
    exact ⟨by simp [hauthorized], by simp [hauthorized, hblocked], by simp [hblocked],
      by simp [hblocked]⟩
  · have hblocked : ¬ input.Blocked := fun h => hchecks (blocked_iff.mpr h)
    have hunapproved := approvalFailure_iff.mp hmissing
    exact ⟨by simp [hauthorized], by simp [hblocked], by simp [hauthorized, hblocked, hunapproved],
      by simp [hunapproved]⟩
  · have hblocked : ¬ input.Blocked := fun h => hchecks (blocked_iff.mpr h)
    have hunapproved : ¬ input.Unapproved now := fun h => hmissing (approvalFailure_iff.mpr h)
    exact ⟨by simp [hauthorized], by simp [hblocked], by simp [hunapproved],
      by simp [hauthorized, hblocked, hunapproved]⟩

end Checks

/-! ## More risk, less approval, more time -/

/-- The step with at least its risk, and otherwise the same. -/
structure RaisesStep (step step' : RemediationStep) : Prop where
  same : step' = { step with riskLevel := step'.riskLevel }
  raised : step.riskLevel.order ≤ step'.riskLevel.order

/-- The plan with at least its risk in every step, and otherwise the same. -/
structure RaisesRisk (plan plan' : RemediationPlan) : Prop where
  same : plan' = { plan with
    steps := plan'.steps
    steps_ne_nil := plan'.steps_ne_nil
    graph := plan'.graph }
  steps : List.Forall₂ RaisesStep plan.steps plan'.steps

/-- The identity has expired, or the approval has. -/
def Expired (input : PolicyInput) (now : Time) : Prop :=
  input.identity.expiresAt ≤ now ∨
    ∃ approval, input.approval = some approval ∧ approval.expiresAt ≤ now

/-- The step that is selected by a property of what does not change is at the same place. -/
theorem find?_of_raises {steps steps' : List RemediationStep}
    (h : List.Forall₂ RaisesStep steps steps') (stepId : String) :
    (steps.find? (·.stepId = stepId) = none ∧ steps'.find? (·.stepId = stepId) = none) ∨
      ∃ step step', steps.find? (·.stepId = stepId) = some step ∧
        steps'.find? (·.stepId = stepId) = some step' ∧ RaisesStep step step' := by
  induction h with
  | nil => exact .inl ⟨rfl, rfl⟩
  | @cons step step' steps steps' hstep hsteps ih =>
    have hid : step'.stepId = step.stepId := by rw [hstep.same]
    by_cases hselected : step.stepId = stepId
    · exact .inr ⟨step, step', by simp [hselected], by simp [hid, hselected], hstep⟩
    · simp only [List.find?_cons, hid, hselected, decide_false]
      exact ih

section Monotone

variable [Sha256] {input : PolicyInput} {now : Time}

/-- A tool of higher risk. -/
def withToolRisk (input : PolicyInput) (risk : RiskLevel) : PolicyInput :=
  { input with tool := { input.tool with riskLevel := risk } }

theorem Authorized.of_toolRisk {risk : RiskLevel} (hrisk : input.tool.riskLevel.order ≤ risk.order)
    (h : (input.withToolRisk risk).Authorized now) : input.Authorized now where
  unexpired := h.unexpired
  agent := h.agent
  scope := ⟨h.scope.1, h.scope.2, h.scope.3, h.scope.4, h.scope.5, h.scope.6, h.scope.7⟩
  step := by
    obtain ⟨step, hget, hmatches⟩ := h.step
    exact ⟨step, hget, hmatches.1, hmatches.2, hmatches.3, hmatches.4, hmatches.5⟩
  tool := ⟨h.tool.1, h.tool.2, h.tool.3⟩
  executing := h.executing
  environment := h.environment
  risk := by
    have hmax : max risk.order input.stepRisk.order < _ := h.risk
    omega
  approval hrequired := by
    obtain ⟨approval, hget, happroved⟩ := h.approval hrequired
    exact ⟨approval, hget, happroved.1, happroved.2, happroved.3, happroved.4, happroved.5,
      happroved.6, happroved.7, happroved.8, happroved.9, happroved.10, happroved.11, happroved.12⟩

/-- An intent that needs no approval. -/
theorem Authorized.of_unapproved (h : { input with approval := none }.Authorized now) :
    input.Authorized now where
  unexpired := h.unexpired
  agent := h.agent
  scope := ⟨h.scope.1, h.scope.2, h.scope.3, h.scope.4, h.scope.5, h.scope.6, h.scope.7⟩
  step := by
    obtain ⟨step, hget, hmatches⟩ := h.step
    exact ⟨step, hget, hmatches.1, hmatches.2, hmatches.3, hmatches.4, hmatches.5⟩
  tool := ⟨h.tool.1, h.tool.2, h.tool.3⟩
  executing := h.executing
  environment := h.environment
  risk := h.risk
  approval hrequired := by
    obtain ⟨approval, hget, -⟩ := h.approval hrequired
    cases hget

/-- Where something has expired, an intent is allowed only if it needs no approval, and then it was
allowed before. -/
theorem Authorized.of_expired {later : Time} (hlater : now ≤ later) (hexpired : input.Expired later)
    (h : input.Authorized later) : input.Authorized now :=
  { h with
    unexpired := Nat.lt_of_le_of_lt hlater h.unexpired
    approval := fun hrequired => by
      obtain ⟨approval, hget, happroved⟩ := h.approval hrequired
      rcases hexpired with hidentity | ⟨stored, hstored, hpassed⟩
      · exact absurd h.unexpired (Nat.not_lt.mpr hidentity)
      · rw [hget] at hstored
        cases hstored
        exact absurd happroved.unexpired (Nat.not_lt.mpr hpassed) }

/-- A plan of higher risk is another document. If the intent is for the plan as it was, it is not
for the other one, unless both have one hash. -/
theorem Authorized.of_raisesRisk {plan' : RemediationPlan} (hraises : RaisesRisk input.plan plan')
    (hhash : calculatePlanHash input.plan = input.intent.planHash)
    (h : { input with plan := plan' }.Authorized now) : input.Authorized now := by
  have hplanId : plan'.planId = input.plan.planId := by rw [hraises.same]
  have hversion : plan'.version = input.plan.version := by rw [hraises.same]
  have htenant : plan'.tenantId = input.plan.tenantId := by rw [hraises.same]
  have hchange : plan'.changeId = input.plan.changeId := by rw [hraises.same]
  obtain ⟨step', hget', hmatches⟩ := h.step
  -- the selected step is at the same place, with at most its risk
  rcases find?_of_raises hraises.steps input.intent.stepId with ⟨-, hnone⟩ | ⟨step, raised, hget, hraised,
    hstep⟩
  · rw [step?, hnone] at hget'
    cases hget'
  rw [step?, hraised] at hget'
  cases hget'
  have hselected : input.step? = some step := hget
  have hrequires : step'.requiresApproval = step.requiresApproval := by rw [hstep.same]
  exact {
    unexpired := h.unexpired
    agent := h.agent
    scope := {
      subject := h.scope.subject
      tenant := h.scope.tenant
      change := h.scope.change
      workflow := h.scope.workflow
      changePlan := ⟨h.scope.changePlan.1.trans hversion, h.scope.changePlan.2⟩
      planScope := ⟨htenant.symm.trans h.scope.planScope.1, hchange.symm.trans h.scope.planScope.2⟩
      plan := ⟨hplanId.symm.trans h.scope.plan.1, hhash⟩ }
    step := by
      refine ⟨step, hselected, ?_⟩
      obtain ⟨hagent, htool, hresource, harguments, hkey⟩ := hmatches
      rw [hstep.same] at hagent htool hresource harguments hkey
      exact ⟨hagent, htool, hresource, harguments, hkey⟩
    tool := ⟨h.tool.1, h.tool.2, h.tool.3⟩
    executing := h.executing
    environment := h.environment
    risk := by
      have hmax := h.risk
      have hbefore : input.stepRisk = step.riskLevel := by rw [stepRisk, hselected]
      have hafter : stepRisk { input with plan := plan' } = step'.riskLevel := by
        rw [stepRisk, step?, hraised]
      rw [hafter] at hmax
      rw [hbefore]
      exact Nat.lt_of_le_of_lt (max_le_max_left _ hstep.raised) hmax
    approval := fun hrequired => by
      have hafter : approvalRequired { input with plan := plan' } = true := by
        rw [approvalRequired, hselected] at hrequired
        rw [approvalRequired, step?, hraised]
        show (step'.requiresApproval || input.tool.mutating) = true
        rw [hrequires]
        exact hrequired
      obtain ⟨approval, hgiven, happroved⟩ := h.approval hafter
      exact ⟨approval, hgiven, { happroved with
        tenant := happroved.tenant
        change := happroved.change
        plan := ⟨happroved.plan.1, happroved.plan.2.trans hplanId⟩
        hash := ⟨happroved.hash.1, hhash.symm⟩
        version := ⟨happroved.version.1.trans hversion, hversion.symm.trans happroved.version.2⟩
        environment := happroved.environment
        step := happroved.step
        separate := happroved.separate }⟩ }

end Monotone

end PolicyInput

open PolicyInput in
/-- **The decision and what moves it.** For every input the effect is the one that the intent has. A
refused intent stays refused when the risk of its tool rises, when its approval is taken away, when
something expires, and when the risk of plan steps rises in the plan that the intent names. -/
theorem evaluate_decides_and_keeps [Sha256] (input : PolicyInput) (decisionId : String) (now : Time) :
    input.Decides now (input.evaluate decisionId now).effect ∧
    (∀ risk : RiskLevel, input.tool.riskLevel.order ≤ risk.order →
      (input.evaluate decisionId now).effect ≠ .ALLOW →
      ((input.withToolRisk risk).evaluate decisionId now).effect ≠ .ALLOW) ∧
    ((input.evaluate decisionId now).effect ≠ .ALLOW →
      ({ input with approval := none }.evaluate decisionId now).effect ≠ .ALLOW) ∧
    (∀ later, now ≤ later → input.Expired later → (input.evaluate decisionId now).effect ≠ .ALLOW →
      (input.evaluate decisionId later).effect ≠ .ALLOW) ∧
    (∀ plan', RaisesRisk input.plan plan' → calculatePlanHash input.plan = input.intent.planHash →
      (input.evaluate decisionId now).effect ≠ .ALLOW →
      ({ input with plan := plan' }.evaluate decisionId now).effect ≠ .ALLOW) := by
  have hdecides : input.Decides now (input.evaluate decisionId now).effect :=
    evaluate_decides decisionId
  refine ⟨hdecides, fun risk hrisk hrefused hallow => ?_, fun hrefused hallow => ?_,
    fun later hlater hexpired hrefused hallow => ?_, fun plan' hraises hhash hrefused hallow => ?_⟩
  · have hauthorized := (evaluate_decides decisionId).allow.mp hallow
    exact hrefused (hdecides.allow.mpr (hauthorized.of_toolRisk hrisk))
  · have hauthorized := (evaluate_decides decisionId).allow.mp hallow
    exact hrefused (hdecides.allow.mpr hauthorized.of_unapproved)
  · have hauthorized := (evaluate_decides decisionId).allow.mp hallow
    exact hrefused (hdecides.allow.mpr (hauthorized.of_expired hlater hexpired))
  · have hauthorized := (evaluate_decides decisionId).allow.mp hallow
    exact hrefused (hdecides.allow.mpr (hauthorized.of_raisesRisk hraises hhash))

namespace DecisionDemo

scoped instance digests : Sha256 := .hashlib

def step (risk : RiskLevel) : RemediationStep where
  stepId := "step_crm"
  order := 1
  agentId := "crm"
  toolName := "crm.update_field_mapping"
  resource := "crm://tenant/tenant_demo/configuration/customer"
  arguments := ⟨[], rfl⟩
  dependsOn := []
  riskLevel := risk
  requiresApproval := true
  idempotencyKey := "key_crm"

def plan (risk : RiskLevel) : RemediationPlan where
  planId := "plan_001"
  tenantId := "tenant_demo"
  changeId := "chg_001"
  version := 1
  riskLevel := .HIGH
  summary := "Rename the customer field"
  preconditions := []
  steps := [step risk]
  verificationSteps := []
  rollbackSteps := []
  evidenceRefs := []
  createdAt := 0
  version_pos := one_le_one
  steps_ne_nil := List.cons_ne_nil _ _
  graph := by cases risk <;> decide

theorem agent_kind : IdentityKind.AGENT = .USER ∨ ([] : List UserRole) = [] := .inr rfl

theorem created_now : (0 : Time) ≤ 0 := Nat.le_refl 0

theorem approver_decides : holdsApproverRole [.APPROVER] = true := rfl

def identity : VerifiedIdentity where
  subject := "crm"
  tenantId := "tenant_demo"
  kind := .AGENT
  roles := []
  issuedAt := 0
  expiresAt := 100
  issued_lt_expires := by decide
  nodup_roles := List.nodup_nil
  roles_of_user := agent_kind

def approval : Approval where
  approvalId := "approval_001"
  tenantId := "tenant_demo"
  changeId := "chg_001"
  planId := "plan_001"
  planHash := calculatePlanHash (plan .HIGH)
  planVersion := 1
  environment := .SANDBOX
  decision := .APPROVED
  scope := ["step_crm"]
  approvedBy := "user_approver"
  approvedByRoles := [.APPROVER]
  approvedAt := 10
  expiresAt := 100
  comment := "Approved."
  approved_lt_expires := by decide
  nodup_roles := List.nodup_singleton _
  approver_role := approver_decides

/-- An intent for the plan with a step of high risk, evaluated with a plan of the given risk. -/
def input (risk : RiskLevel) : PolicyInput where
  identity := identity
  intent :=
    { intentId := "intent_001"
      tenantId := "tenant_demo"
      changeId := "chg_001"
      workflowExecutionId := "wf_001"
      planId := "plan_001"
      planHash := calculatePlanHash (plan .HIGH)
      stepId := "step_crm"
      agentIdentity := "crm"
      toolName := "crm.update_field_mapping"
      action := "update"
      resource := "crm://tenant/tenant_demo/configuration/customer"
      arguments := ⟨[], rfl⟩
      reason := "Rename the customer field"
      evidenceRefs := []
      idempotencyKey := "key_crm"
      requestedAt := 0 }
  change :=
    { changeId := "chg_001"
      tenantId := "tenant_demo"
      eventId := "evt_001"
      changeType := "api.contract.changed"
      title := "Customer field renamed"
      description := "Customer field renamed"
      source := ⟨"github", "ext_001", "https://example.test"⟩
      environment := .SANDBOX
      status := .EXECUTING
      riskLevel := .HIGH
      currentPhase := .EXECUTING
      workflowExecutionId := some "wf_001"
      planVersion := 1
      planHash := some (calculatePlanHash (plan .HIGH))
      createdAt := 0
      updatedAt := 0
      createdBy := "event-gateway"
      version := 1
      phase_eq := rfl
      created_le_updated := created_now
      version_pos := one_le_one }
  plan := plan risk
  tool := registration "crm.update_field_mapping" "crm" ⟨"crm://tenant/", "/configuration/*"⟩
    "crm-sandbox-write-v1"
  approval := some approval

/-- With the plan that it names the intent is authorized. -/
theorem authorized : (input .HIGH).Authorized 20 where
  unexpired := by decide
  agent := rfl
  scope := ⟨rfl, rfl, ⟨rfl, rfl⟩, rfl, ⟨rfl, rfl⟩, ⟨rfl, rfl⟩, ⟨rfl, rfl⟩⟩
  step := ⟨step .HIGH, rfl, rfl, ⟨rfl, rfl⟩, rfl, rfl, rfl⟩
  tool := ⟨rfl, rfl, by decide +kernel⟩
  executing := rfl
  environment := by decide
  risk := by decide
  approval _ := ⟨approval, rfl, rfl, by decide, by decide, rfl, rfl, ⟨rfl, rfl⟩, ⟨rfl, rfl⟩, ⟨rfl, rfl⟩,
    rfl, List.mem_singleton_self _, .inl (List.mem_singleton_self _), by decide⟩

theorem raises : PolicyInput.RaisesRisk (plan .LOW) (plan .HIGH) where
  same := rfl
  steps := .cons ⟨rfl, by decide⟩ .nil

theorem low_hash : calculatePlanHash (plan .LOW) =
    "sha256:323f9e414b37b04e6e6d7551d849ded8f2bb22b308136a23e36bbeaa839f8317" := by
  decide +kernel

theorem high_hash : calculatePlanHash (plan .HIGH) =
    "sha256:69a8d87ad5bd1929c100c3ba2b29e4175d3932dc8291802b03b07ae75ff3ba81" := by
  decide +kernel

/-- With the plan of lower risk it is not: that one has another hash. -/
theorem not_authorized : ¬ (input .LOW).Authorized 20 := by
  intro h
  have hhash : calculatePlanHash (plan .LOW) = calculatePlanHash (plan .HIGH) := h.scope.plan.2
  rw [low_hash, high_hash] at hhash
  exact absurd hhash (by decide)

end DecisionDemo

open scoped DecisionDemo in
open DecisionDemo in
/-- The plan is given with a step of lower risk than in the plan that the intent and the approval
name; raising that risk makes it their plan. -/
theorem not_keeps_raised_step :
    ¬ ∀ (input : PolicyInput) (decisionId : String) (now : Time) (plan' : RemediationPlan),
      input.tool ∈ defaultTools → PolicyInput.RaisesRisk input.plan plan' →
      (input.evaluate decisionId now).effect ≠ .ALLOW →
      ({ input with plan := plan' }.evaluate decisionId now).effect ≠ .ALLOW := by
  intro h
  have hkept := h (input .LOW) "decision_001" 20 (plan .HIGH) List.mem_cons_self raises
  refine hkept ?_ ?_
  · exact fun hallow => not_authorized ((PolicyInput.evaluate_decides _).allow.mp hallow)
  · have hdecides : (input .HIGH).Decides 20 ((input .HIGH).evaluate "decision_001" 20).effect :=
      PolicyInput.evaluate_decides "decision_001"
    exact hdecides.allow.mpr authorized

end ChangeOps
