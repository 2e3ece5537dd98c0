import ChangeOps.AgentFleet.Planner
import ChangeOps.Lib.Fallible
import ChangeOps.Policy.Scope
import ChangeOps.ToolGateway.Approvals
import ChangeOps.ToolGateway.Handler
import ChangeOps.Workflow.Clients

/-!
# ChangeOps.AgentFleet — what the gateway makes of a draft plan

The planner reads two names out of the text of an event and pastes the tenant id into three
resources; the gateway reads the names with a pattern of its own and the tenant id as a part of a
shell pattern. A draft plan can be executed as planned exactly if the event names two different
fields and the resources lie in the patterns (`draftPlan_executable_iff`).
-/

namespace ChangeOps

/-! ## What an event names -/

/-- A word without the marks around it. -/
def bareWord (word : List Char) : String := String.ofList (Words.strip isMark word)

/-- The transition that an event is about: the words around the last ` to ` of its summary, or its
two versions where the summary has none. -/
inductive Transition (event : ChangeEvent) : String → String → Prop where
  | sentence {before after oldWord newWord : List Char}
      (hsummary : event.change.summary.toList = before ++ (separator ++ after))
      (hlast : ¬ separator <:+: (separator ++ after).tail)
      (hold : Words.LastWord isBlank before oldWord)
      (hnew : Words.FirstWord isBlank after newWord) :
      Transition event (bareWord oldWord) (bareWord newWord)
  | versions (hsummary : ¬ separator <:+: event.change.summary.toList) :
      Transition event event.change.oldVersion event.change.newVersion

theorem separator_ne_nil : separator ≠ [] := by decide

theorem infix_of_eq {text before after : List Char} (h : text = before ++ (separator ++ after)) :
    separator <:+: text := ⟨before, after, by rw [h, List.append_assoc]⟩

theorem fieldFromEvent_of_rsplit {event : ChangeEvent} {before after : List Char}
    (h : Words.rsplit separator event.change.summary.toList = some (before, after)) (old : Bool)
    (name : String) :
    fieldFromEvent event old = .ok name ↔ ∃ word, name = bareWord word ∧
      (if old then Words.lastWord? isBlank before else Words.firstWord? isBlank after) =
        some word := by
  unfold fieldFromEvent
  rw [h]
  dsimp only
  generalize (if old then Words.lastWord? isBlank before else Words.firstWord? isBlank after) = word
  cases word with
  | none => simp
  | some word =>
    constructor
    · intro heq
      cases heq
      exact ⟨word, rfl, rfl⟩
    · rintro ⟨word', rfl, heq⟩
      cases heq
      rfl

theorem fieldFromEvent_of_none {event : ChangeEvent}
    (h : Words.rsplit separator event.change.summary.toList = none) (old : Bool) :
    fieldFromEvent event old =
      .ok (if old then event.change.oldVersion else event.change.newVersion) := by
  unfold fieldFromEvent
  rw [h]

/-- The planner reads the transition of an event. -/
theorem fieldTransition_eq_ok_iff {event : ChangeEvent} {oldField newField : String} :
    fieldTransition event = .ok (oldField, newField) ↔ Transition event oldField newField := by
  have hparts : fieldTransition event = .ok (oldField, newField) ↔
      fieldFromEvent event true = .ok oldField ∧ fieldFromEvent event false = .ok newField := by
    unfold fieldTransition
    rw [Fallible.bind_eq_ok_iff]
    constructor
    · rintro ⟨old, hold, h⟩
      obtain ⟨new, hnew, h⟩ := Fallible.bind_eq_ok_iff.mp h
      cases h
      exact ⟨hold, hnew⟩
    · rintro ⟨hold, hnew⟩
      exact ⟨oldField, hold, Fallible.bind_eq_ok_iff.mpr ⟨newField, hnew, rfl⟩⟩
  rw [hparts]
  cases hsplit : Words.rsplit separator event.change.summary.toList with
  | none =>
    have hno := (Words.rsplit_eq_none_iff separator_ne_nil).mp hsplit
    rw [fieldFromEvent_of_none hsplit, fieldFromEvent_of_none hsplit]
    constructor
    · rintro ⟨hold, hnew⟩
      cases hold
      cases hnew
      exact .versions hno
    · intro h
      cases h with
      | sentence hsummary => exact absurd (infix_of_eq hsummary) hno
      | versions => exact ⟨rfl, rfl⟩
  | some parts =>
    obtain ⟨before, after⟩ := parts
    obtain ⟨hsummary, hlast⟩ := (Words.rsplit_eq_some_iff separator_ne_nil).mp hsplit
    rw [fieldFromEvent_of_rsplit hsplit, fieldFromEvent_of_rsplit hsplit]
    constructor
    · rintro ⟨⟨oldWord, rfl, hold⟩, newWord, rfl, hnew⟩
      exact .sentence hsummary hlast (Words.lastWord?_eq_some_iff.mp hold)
        (Words.firstWord?_eq_some_iff.mp hnew)
    · intro h
      cases h with
      | sentence hsummary' hlast' hold hnew =>
        have hsame := (Words.rsplit_eq_some_iff separator_ne_nil).mpr ⟨hsummary', hlast'⟩
        rw [hsplit] at hsame
        cases hsame
        exact ⟨⟨_, rfl, Words.lastWord?_eq_some_iff.mpr hold⟩, _, rfl,
          Words.firstWord?_eq_some_iff.mpr hnew⟩
      | versions hno => exact absurd (infix_of_eq hsummary) hno

/-- The texts that a `ChangeEvent` has checked, as far as a plan is made of them. -/
structure ChangeEvent.Checked (event : ChangeEvent) : Prop where
  tenantId : nonEmptyStr event.tenantId = .ok event.tenantId
  summary : nonEmptyStr event.change.summary = .ok event.change.summary
  oldVersion : nonEmptyStr event.change.oldVersion = .ok event.change.oldVersion
  newVersion : nonEmptyStr event.change.newVersion = .ok event.change.newVersion

theorem stripWhitespace_bareWord {word : List Char} (h : Words.IsWord isBlank word) :
    stripWhitespace (bareWord word) = bareWord word := by
  have hinside : ∀ c ∈ Words.strip isMark word, isWhiteSpace c = false := by
    intro c hc
    have hblank := h.2 c (Words.mem_of_mem_strip hc)
    unfold isBlank at hblank
    exact (Bool.or_eq_false_iff.mp hblank).1
  unfold stripWhitespace bareWord
  rw [String.toList_ofList]
  exact congrArg String.ofList (Words.strip_eq_self hinside)

/-- The names that a checked event is about have no blanks at their ends. -/
theorem Transition.stripped {event : ChangeEvent} (hchecked : event.Checked)
    {oldField newField : String} (h : Transition event oldField newField) :
    stripWhitespace oldField = oldField ∧ stripWhitespace newField = newField := by
  cases h with
  | sentence _ _ hold hnew =>
    exact ⟨stripWhitespace_bareWord hold.isWord, stripWhitespace_bareWord hnew.isWord⟩
  | versions _ =>
    exact ⟨(nonEmptyStr_of_ok hchecked.oldVersion).1.symm,
      (nonEmptyStr_of_ok hchecked.newVersion).1.symm⟩

/-! ## The steps of a draft plan -/

section Plan

variable [Uuid5] {request : FleetAnalysisRequest} {evidence : List EvidenceItem}
  {plan : RemediationPlan}

/-- The step that the planner makes for one of its agents. -/
structure PlannedStep (request : FleetAnalysisRequest) (evidence : List EvidenceItem)
    (oldField newField : String) (spec : ProposalSpec) (step : RemediationStep) : Prop where
  agentId : step.agentId = spec.agentId
  toolName : step.toolName = spec.tool
  arguments : step.arguments = proposedArguments oldField newField
  riskLevel : step.riskLevel = .HIGH
  resource : ∃ target, targetSystem evidence spec.configurationRef = .ok target ∧
    step.resource = stripWhitespace (targetResource spec.agentId request.event.tenantId target)

theorem deriveProposal_of_ok {oldField newField : String} {spec : ProposalSpec}
    {proposal : RemediationProposal}
    (h : deriveProposal request evidence oldField newField spec = .ok proposal) :
    proposal.agentId = spec.agentId ∧ proposal.proposedTool = spec.tool ∧
      proposal.proposedArguments = proposedArguments oldField newField ∧
      proposal.riskLevel = .HIGH ∧ ∃ target, targetSystem evidence spec.configurationRef = .ok target ∧
        proposal.targetResource =
          stripWhitespace (targetResource spec.agentId request.event.tenantId target) := by
  unfold deriveProposal at h
  obtain ⟨target, htarget, h⟩ := Fallible.bind_eq_ok_iff.mp h
  obtain ⟨system, -, h⟩ := Fallible.bind_eq_ok_iff.mp h
  obtain ⟨summary, -, h⟩ := Fallible.bind_eq_ok_iff.mp h
  obtain ⟨resource, hresource, h⟩ := Fallible.bind_eq_ok_iff.mp h
  obtain ⟨validation, -, h⟩ := Fallible.bind_eq_ok_iff.mp h
  obtain ⟨rollback, -, h⟩ := Fallible.bind_eq_ok_iff.mp h
  cases h
  exact ⟨rfl, rfl, rfl, rfl, target, htarget, (nonEmptyStr_of_ok hresource).1⟩

omit [Uuid5] in
theorem planStep_of_ok {oldField : String} {entry : RemediationProposal × Nat}
    {step : RemediationStep} (h : planStep request oldField entry = .ok step) :
    step.agentId = entry.1.agentId ∧ step.toolName = entry.1.proposedTool ∧
      step.arguments = entry.1.proposedArguments ∧ step.riskLevel = entry.1.riskLevel ∧
      step.resource = entry.1.targetResource := by
  unfold planStep at h
  obtain ⟨key, -, h⟩ := Fallible.bind_eq_ok_iff.mp h
  cases h
  exact ⟨rfl, rfl, rfl, rfl, rfl⟩

/-- What a plan that was built carries over from its request. -/
theorem buildPlan_of_ok {proposals : List RemediationProposal}
    (h : buildPlan request proposals evidence = .ok plan) :
    plan.tenantId = request.event.tenantId ∧ ∃ oldField newField,
      fieldTransition request.event = .ok (oldField, newField) ∧
      (proposals.zipIdx 1).mapM (planStep request oldField) = .ok plan.steps := by
  unfold buildPlan at h
  obtain ⟨⟨oldField, newField⟩, htransition, h⟩ := Fallible.bind_eq_ok_iff.mp h
  obtain ⟨steps, hsteps, h⟩ := Fallible.bind_eq_ok_iff.mp h
  split_ifs at h with hne
  split at h
  · cases h
  · cases h
    exact ⟨rfl, oldField, newField, htransition, hsteps⟩

theorem draftPlan_of_ok (h : draftPlan request evidence = .ok plan) :
    plan.tenantId = request.event.tenantId ∧ ∃ oldField newField,
      Transition request.event oldField newField ∧
      (∀ step ∈ plan.steps, ∃ spec ∈ proposalSpecs,
        PlannedStep request evidence oldField newField spec step) ∧
      ∀ spec ∈ proposalSpecs, ∃ step ∈ plan.steps,
        PlannedStep request evidence oldField newField spec step := by
  unfold draftPlan at h
  obtain ⟨⟨oldField, newField⟩, htransition, h⟩ := Fallible.bind_eq_ok_iff.mp h
  obtain ⟨proposals, hproposals, h⟩ := Fallible.bind_eq_ok_iff.mp h
  obtain ⟨htenant, old, new, hsame, hsteps⟩ := buildPlan_of_ok h
  rw [htransition] at hsame
  cases hsame
  have hplanned : ∀ spec entry step,
      deriveProposal request evidence oldField newField spec = .ok entry.1 →
      planStep request oldField entry = .ok step →
      PlannedStep request evidence oldField newField spec step := by
    intro spec entry step hproposal hstep
    obtain ⟨hagent, htool, hargs, hrisk, target, htarget, hresource⟩ := deriveProposal_of_ok hproposal
    obtain ⟨hagent', htool', hargs', hrisk', hresource'⟩ := planStep_of_ok hstep
    exact ⟨hagent'.trans hagent, htool'.trans htool, hargs'.trans hargs, hrisk'.trans hrisk,
      target, htarget, hresource'.trans hresource⟩
  refine ⟨htenant, oldField, newField, fieldTransition_eq_ok_iff.mp htransition, ?_, ?_⟩
  · intro step hstep
    obtain ⟨entry, hentry, hmake⟩ := (Fallible.mem_mapM_iff hsteps).mp hstep
    have hproposal : entry.1 ∈ proposals := List.fst_mem_of_mem_zipIdx hentry
    obtain ⟨spec, hspec, hderive⟩ := (Fallible.mem_mapM_iff hproposals).mp hproposal
    exact ⟨spec, hspec, hplanned spec entry step hderive hmake⟩
  · intro spec hspec
    obtain ⟨proposal, hderive⟩ := Fallible.exists_of_mapM hproposals hspec
    have hproposal : proposal ∈ proposals :=
      (Fallible.mem_mapM_iff hproposals).mpr ⟨spec, hspec, hderive⟩
    obtain ⟨index, hindex⟩ := List.mem_iff_getElem?.mp hproposal
    have hentry := (List.mk_add_mem_zipIdx_iff_getElem? (k := 1)).mpr hindex
    obtain ⟨step, hmake⟩ := Fallible.exists_of_mapM hsteps hentry
    exact ⟨step, (Fallible.mem_mapM_iff hsteps).mpr ⟨_, hentry, hmake⟩,
      hplanned spec _ step hderive hmake⟩

end Plan

/-! ## Execution -/

section Execution

variable [Sha256]

/-- What a step of a plan needs to be executed: the change is executing under the plan, there is a
current approval that covers all steps, and each agent has a token. The coordinator creates its
changes in the sandbox, and an approval counts only if no agent has granted its own step. The
workflow's id is a derived one, of 27 characters, so that the intent's id fits its 512. -/
structure Clearance (plan : RemediationPlan) where
  workflowExecutionId : String
  change : ChangeRecord
  approval : Approval
  identity : RemediationStep → VerifiedIdentity
  requestedAt : RemediationStep → Time
  evaluatedAt : RemediationStep → Time
  change_scope : change.tenantId = plan.tenantId ∧ change.changeId = plan.changeId
  change_workflow : change.workflowExecutionId = some workflowExecutionId
  executing : change.status = .EXECUTING
  environment : change.environment = .SANDBOX
  bound : change.planVersion = plan.version ∧ change.planHash = some (calculatePlanHash plan)
  approved : approval.decision = .APPROVED
  approval_scope : approval.tenantId = plan.tenantId ∧ approval.changeId = plan.changeId
  approval_plan : approval.planId = plan.planId ∧ approval.planHash = calculatePlanHash plan ∧
    approval.planVersion = plan.version
  approval_environment : approval.environment = change.environment
  covers : ∀ step ∈ plan.steps, step.stepId ∈ approval.scope
  current : ∀ step ∈ plan.steps,
    approval.approvedAt ≤ evaluatedAt step ∧ evaluatedAt step < approval.expiresAt
  independent : ∀ step ∈ plan.steps, approval.approvedBy ≠ step.agentId
  issued : ∀ step ∈ plan.steps, (identity step).subject = step.agentId ∧
    (identity step).tenantId = plan.tenantId ∧ (identity step).kind = .AGENT ∧
    evaluatedAt step < (identity step).expiresAt

namespace Clearance

variable {plan : RemediationPlan}

/-- What the policy is asked about a step, with the intent of `GatewayClient.execute`. -/
def input (clearance : Clearance plan) (tool : ToolRegistration) (step : RemediationStep) :
    PolicyInput where
  identity := clearance.identity step
  intent := toolIntent clearance.workflowExecutionId plan step (clearance.requestedAt step)
  change := clearance.change
  plan := plan
  tool := tool
  approval := some clearance.approval

@[simp] theorem input_identity (clearance : Clearance plan) (tool : ToolRegistration)
    (step : RemediationStep) :
    (clearance.input tool step).identity = clearance.identity step := rfl

@[simp] theorem input_intent (clearance : Clearance plan) (tool : ToolRegistration)
    (step : RemediationStep) : (clearance.input tool step).intent =
      toolIntent clearance.workflowExecutionId plan step (clearance.requestedAt step) := rfl

@[simp] theorem input_change (clearance : Clearance plan) (tool : ToolRegistration)
    (step : RemediationStep) : (clearance.input tool step).change = clearance.change := rfl

@[simp] theorem input_plan (clearance : Clearance plan) (tool : ToolRegistration)
    (step : RemediationStep) : (clearance.input tool step).plan = plan := rfl

@[simp] theorem input_tool (clearance : Clearance plan) (tool : ToolRegistration)
    (step : RemediationStep) : (clearance.input tool step).tool = tool := rfl

@[simp] theorem input_approval (clearance : Clearance plan) (tool : ToolRegistration)
    (step : RemediationStep) :
    (clearance.input tool step).approval = some clearance.approval := rfl

/-- The gateway executes a step as planned: its arguments fit the schema, and the policy allows
its intent. -/
def Executable (clearance : Clearance plan) (step : RemediationStep) : Prop :=
  (∃ arguments, FieldPatchArguments.modelValidate? step.arguments = some arguments) ∧
    ∃ tool, getTool defaultTools step.toolName = some tool ∧ ∀ decisionId,
      ((clearance.input tool step).evaluate decisionId (clearance.evaluatedAt step)).effect = .ALLOW

theorem approvalValid (clearance : Clearance plan) (tool : ToolRegistration)
    {step : RemediationStep} (hstep : step ∈ plan.steps) :
    (clearance.input tool step).approvalValid (clearance.evaluatedAt step) = true := by
  have hcurrent := clearance.current step hstep
  simp [PolicyInput.approvalValid, toolIntent, clearance.approved, clearance.approval_scope,
    clearance.approval_plan, clearance.bound, clearance.approval_environment,
    clearance.covers step hstep, hcurrent.1, hcurrent.2, clearance.approval.approver_role,
    clearance.independent step hstep]

theorem step?_input (clearance : Clearance plan) (tool : ToolRegistration) {step : RemediationStep}
    (hstep : step ∈ plan.steps) : (clearance.input tool step).step? = some step := by
  show plan.steps.find? (fun candidate => candidate.stepId = step.stepId) = some step
  cases hfind : plan.steps.find? (fun candidate => candidate.stepId = step.stepId) with
  | none => exact absurd (decide_eq_true rfl) (List.find?_eq_none.mp hfind step hstep)
  | some found =>
    have hid : found.stepId = step.stepId := by simpa using List.find?_some hfind
    exact congrArg some (List.inj_on_of_nodup_map plan.nodup_stepIds
      (List.mem_of_find?_eq_some hfind) hstep hid)

theorem scopeFailures_eq_nil (clearance : Clearance plan) (tool : ToolRegistration)
    {step : RemediationStep} (hstep : step ∈ plan.steps) :
    (clearance.input tool step).scopeFailures (clearance.evaluatedAt step) = [] := by
  obtain ⟨hsubject, htenant, hkind, hexpires⟩ := clearance.issued step hstep
  simp [PolicyInput.scopeFailures, failWhen_eq_nil_iff, toolIntent, hsubject, htenant, hkind,
    clearance.change_scope, clearance.change_workflow, clearance.executing, clearance.bound]
  -- what is left is that the token has not expired
  exact decide_eq_false (Nat.not_le.mpr hexpires)

/-- With a clearance, the tool's owner and the tool's pattern are what is left to check. -/
theorem failures_eq_nil_iff (clearance : Clearance plan) {tool : ToolRegistration}
    {step : RemediationStep} (hstep : step ∈ plan.steps) (htool : tool ∈ defaultTools)
    (hname : step.toolName = tool.toolName) (howner : tool.owningAgentId = step.agentId)
    (hrisk : step.riskLevel = .HIGH) :
    (clearance.input tool step).failures (clearance.evaluatedAt step) = [] ↔
      resourceInScope tool plan.tenantId step.resource = true := by
  have hregistered : tool.action = "update" ∧ tool.allowedEnvironments = [.SANDBOX] ∧
      tool.riskLevel = .HIGH := by
    simp only [defaultTools, List.mem_cons, List.not_mem_nil, or_false] at htool
    rcases htool with rfl | rfl | rfl
    all_goals exact ⟨rfl, rfl, rfl⟩
  have hstep? := clearance.step?_input tool hstep
  have hcomputed : (clearance.input tool step).computedRisk = .HIGH := by
    show RiskLevel.max tool.riskLevel (clearance.input tool step).stepRisk = .HIGH
    rw [PolicyInput.stepRisk, hstep?]
    show RiskLevel.max tool.riskLevel step.riskLevel = .HIGH
    rw [hregistered.2.2, hrisk]
    rfl
  have hstepFailures : (clearance.input tool step).stepFailures = [] := by
    rw [PolicyInput.stepFailures, hstep?]
    simp [failWhen_eq_nil_iff, toolIntent, hname, JsonObject.pyEq, Json.pyEq_self]
  rw [PolicyInput.failures, clearance.scopeFailures_eq_nil tool hstep, hstepFailures,
    clearance.approvalValid tool hstep]
  simp [PolicyInput.toolFailures, failWhen_eq_nil_iff, hcomputed, toolIntent, howner, hregistered, clearance.environment]

end Clearance

/-! ## The law -/

/-- The event is about two different fields, by the gateway's pattern of a field name. -/
def NamesFields (event : ChangeEvent) : Prop :=
  ∃ oldField newField, Transition event oldField newField ∧ isFieldName oldField = true ∧
    isFieldName newField = true ∧ oldField ≠ newField

/-- The resources of the three systems lie in the patterns of their tools for the tenant. -/
def InOwnScope (tenantId : String) (evidence : List EvidenceItem) : Prop :=
  ∀ spec ∈ proposalSpecs, ∀ tool target, getTool defaultTools spec.tool = some tool →
    targetSystem evidence spec.configurationRef = .ok target →
    resourceInScope tool tenantId (stripWhitespace (targetResource spec.agentId tenantId target)) =
      true

omit [Sha256] in
theorem modelValidate?_proposedArguments {oldField newField : String}
    (hold : stripWhitespace oldField = oldField) (hnew : stripWhitespace newField = newField) :
    (∃ arguments, FieldPatchArguments.modelValidate? (proposedArguments oldField newField) =
      some arguments) ↔
    isFieldName oldField = true ∧ isFieldName newField = true ∧ oldField ≠ newField := by
  have hkeys : ((proposedArguments oldField newField).fields.all fun field =>
      field.1 = "old_field" || field.1 = "new_field") = true := rfl
  have hgetOld : (proposedArguments oldField newField).get? "old_field" = some (.str oldField) := rfl
  have hgetNew : (proposedArguments oldField newField).get? "new_field" = some (.str newField) := rfl
  unfold FieldPatchArguments.modelValidate?
  rw [if_pos hkeys, hgetOld, hgetNew, fieldName?, fieldName?, hold, hnew]
  by_cases ho : isFieldName oldField = true
  · by_cases hn : isFieldName newField = true
    · by_cases hne : oldField = newField
      · simp [hn, hne]
      · simp [ho, hn, hne]
    · simp [ho, hn]
  · simp [ho]

omit [Sha256] in
/-- The registered tool of each of the planner's agents is owned by that agent. -/
theorem getTool_proposalSpecs {spec : ProposalSpec} (h : spec ∈ proposalSpecs) :
    ∃ tool ∈ defaultTools, getTool defaultTools spec.tool = some tool ∧
      tool.toolName = spec.tool ∧ tool.owningAgentId = spec.agentId := by
  simp only [proposalSpecs, List.mem_cons, List.not_mem_nil, or_false] at h
  rcases h with rfl | rfl | rfl
  all_goals exact ⟨_, by decide, rfl, rfl, rfl⟩

omit [Sha256] in
/-- Stripping leaves a text alone that begins and ends with characters that are no blanks. -/
theorem prefix_stripWhitespace {front back : String} {first last : Char} {middle : List Char}
    (hfront : front.toList = first :: (middle ++ [last])) (hfirst : isWhiteSpace first = false)
    (hlast : isWhiteSpace last = false) :
    front.toList <+: (stripWhitespace (front ++ back)).toList := by
  unfold stripWhitespace
  rw [String.toList_ofList, String.toList_append]
  have hdrop : (front.toList ++ back.toList).dropWhile isWhiteSpace =
      front.toList ++ back.toList := by
    rw [hfront, List.cons_append, List.dropWhile_cons, hfirst]
    rfl
  have hkeep : front.toList.rdropWhile isWhiteSpace = front.toList := by
    rw [hfront, ← List.cons_append]
    exact List.rdropWhile_concat_neg _ _ _ (by simp [hlast])
  rw [hdrop, List.rdropWhile, List.reverse_append, List.dropWhile_append]
  split
  · rw [← List.rdropWhile, hkeep]
  · rw [List.reverse_append, List.reverse_reverse]
    exact List.prefix_append _ _

omit [Sha256] in
/-- A tenant id without a meaning of its own in patterns is in its own scope. -/
theorem inOwnScope_of_isLiteral {tenantId : String}
    (h : Fnmatch.isLiteral tenantId.toList = true) (evidence : List EvidenceItem) :
    InOwnScope tenantId evidence := by
  intro spec hspec tool target hget _
  obtain ⟨tool', htool, hget', -, howner⟩ := getTool_proposalSpecs hspec
  rw [hget] at hget'
  cases hget'
  refine ((check_iff_isLiteral htool tenantId).mpr h _).mpr ?_
  have htext : targetResource spec.agentId tenantId target = scopePrefix tool tenantId ++ target := by
    rw [targetResource, scopePrefix, howner]
  rw [htext]
  -- the prefix begins with the agent's name and ends with a slash
  have hends : ∀ agent : String, ∀ first rest, agent.toList = first :: rest →
      (agent ++ "://tenant/" ++ tenantId ++ "/configuration/").toList =
        first :: ((rest ++ "://tenant/".toList ++ tenantId.toList ++ "/configuration".toList) ++
          ['/']) := by
    intro agent first rest hagent
    simp only [String.toList_append, hagent, List.cons_append, List.append_assoc]
    rfl
  simp only [proposalSpecs, List.mem_cons, List.not_mem_nil, or_false] at hspec
  rw [scopePrefix, howner]
  rcases hspec with rfl | rfl | rfl
  all_goals exact prefix_stripWhitespace (hends _ _ _ rfl) (by decide) (by decide)

/-- A step of a draft plan is executable if its names fit the schema and its resource lies in the
scope of the agent's tool. -/
theorem PlannedStep.executable_iff [Uuid5] {request : FleetAnalysisRequest}
    {evidence : List EvidenceItem} {plan : RemediationPlan} (clearance : Clearance plan)
    {oldField newField : String} {spec : ProposalSpec} {step : RemediationStep}
    (hspec : spec ∈ proposalSpecs) (hstep : step ∈ plan.steps)
    (hplanned : PlannedStep request evidence oldField newField spec step)
    (hold : stripWhitespace oldField = oldField) (hnew : stripWhitespace newField = newField) :
    clearance.Executable step ↔
      (isFieldName oldField = true ∧ isFieldName newField = true ∧ oldField ≠ newField) ∧
        ∃ tool, getTool defaultTools spec.tool = some tool ∧
          resourceInScope tool plan.tenantId step.resource = true := by
  obtain ⟨tool, htool, hget, hname, howner⟩ := getTool_proposalSpecs hspec
  have hfailures := clearance.failures_eq_nil_iff hstep htool (hplanned.toolName.trans hname.symm)
    (howner.trans hplanned.agentId.symm) hplanned.riskLevel
  unfold Clearance.Executable
  rw [hplanned.arguments, modelValidate?_proposedArguments hold hnew, hplanned.toolName, hget]
  simp only [PolicyInput.evaluate_allow_iff, Option.some.injEq, exists_eq_left', hfailures,
    forall_const]

/-- **Draft plans and the gateway.** A draft plan of the deterministic fleet can be executed as
planned exactly if the event names two different fields and the plan's resources lie in the
patterns of their tools. -/
theorem draftPlan_executable_iff [Uuid5] {request : FleetAnalysisRequest}
    {evidence : List EvidenceItem} {plan : RemediationPlan} (hchecked : request.event.Checked)
    (hplan : draftPlan request evidence = .ok plan) (clearance : Clearance plan) :
    (∀ step ∈ plan.steps, clearance.Executable step) ↔
      NamesFields request.event ∧ InOwnScope request.event.tenantId evidence := by
  obtain ⟨htenant, oldField, newField, htransition, hsteps, hspecs⟩ := draftPlan_of_ok hplan
  obtain ⟨hold, hnew⟩ := htransition.stripped hchecked
  have hnames : NamesFields request.event ↔
      isFieldName oldField = true ∧ isFieldName newField = true ∧ oldField ≠ newField := by
    constructor
    · rintro ⟨old, new, hsame, hfields⟩
      have heq := (fieldTransition_eq_ok_iff.mpr hsame).symm.trans
        (fieldTransition_eq_ok_iff.mpr htransition)
      cases heq
      exact hfields
    · intro hfields
      exact ⟨oldField, newField, htransition, hfields⟩
  rw [hnames]
  constructor
  · intro hall
    have hfields : isFieldName oldField = true ∧ isFieldName newField = true ∧
        oldField ≠ newField := by
      obtain ⟨step, hstep, hplanned⟩ := hspecs _ List.mem_cons_self
      exact ((hplanned.executable_iff clearance List.mem_cons_self hstep hold hnew).mp
        (hall step hstep)).1
    refine ⟨hfields, fun spec hspec tool target hget htarget => ?_⟩
    obtain ⟨step, hstep, hplanned⟩ := hspecs spec hspec
    obtain ⟨-, tool', hget', hscope⟩ :=
      (hplanned.executable_iff clearance hspec hstep hold hnew).mp (hall step hstep)
    obtain ⟨target', htarget', hresource⟩ := hplanned.resource
    rw [hget] at hget'
    cases hget'
    rw [htarget] at htarget'
    cases htarget'
    rw [htenant, hresource] at hscope
    exact hscope
  · rintro ⟨hfields, hscope⟩ step hstep
    obtain ⟨spec, hspec, hplanned⟩ := hsteps step hstep
    obtain ⟨tool, -, hget, -, -⟩ := getTool_proposalSpecs hspec
    obtain ⟨target, htarget, hresource⟩ := hplanned.resource
    refine (hplanned.executable_iff clearance hspec hstep hold hnew).mpr ⟨hfields, tool, hget, ?_⟩
    rw [htenant, hresource]
    exact hscope spec hspec tool target hget htarget

end Execution

/-! ## Two events -/

namespace PlannerDemo

scoped instance digests : Sha256 := .hashlib

scoped instance uuids : Uuid5 := ⟨fun name => name⟩

def event (summary : String) : ChangeEvent where
  schemaVersion := "1.0"
  eventId := "evt_1"
  tenantId := "tenant-golden"
  eventType := "api.contract.changed"
  source := ⟨"github", "pr-42", "https://example.invalid/demo/pr/42"⟩
  occurredAt := 1
  receivedAt := 2
  subject := ⟨"customer-api", "api-contract", "customer-api-v2"⟩
  change := ⟨summary, "1.4.0", "2.0.0", ["artifact://contracts/customer-v2-diff.json"]⟩
  correlationId := "correlation"
  traceId := "trace"

def request (summary : String) : FleetAnalysisRequest := ⟨"chg_1", event summary⟩

theorem system_sorted (system : String) :
    (Json.obj [("system_id", .str system)]).isSorted = true := rfl

def item (evidenceId system : String) : EvidenceItem :=
  ⟨evidenceId, [("system_id", .str system)], system_sorted system⟩

def evidence : List EvidenceItem :=
  [item "crm-configuration" "crm-sync", item "analytics-configuration" "customer-daily-etl",
    item "support-configuration" "support-portal"]

/-- The names of a sentence, and the versions that stand in for them. -/
example : fieldTransition (event "Rename `customer_id` to 'customer_uuid'.") =
      .ok ("customer_id", "customer_uuid") ∧
    fieldTransition (event "Upgrade the customer API") = .ok ("1.4.0", "2.0.0") := by
  decide +kernel

def identity (step : RemediationStep) : VerifiedIdentity where
  subject := step.agentId
  tenantId := "tenant-golden"
  kind := .AGENT
  roles := []
  issuedAt := 5
  expiresAt := 10
  issued_lt_expires := by decide
  nodup_roles := List.nodup_nil
  roles_of_user := .inr rfl

def change (plan : RemediationPlan) : ChangeRecord where
  changeId := plan.changeId
  tenantId := plan.tenantId
  eventId := "evt_1"
  changeType := "api.contract.changed"
  title := "title"
  description := "description"
  source := (event "").source
  environment := .SANDBOX
  status := .EXECUTING
  riskLevel := .HIGH
  currentPhase := .EXECUTING
  workflowExecutionId := some "wf_1"
  planVersion := plan.version
  planHash := some (calculatePlanHash plan)
  createdAt := 3
  updatedAt := 4
  createdBy := "workflow-coordinator"
  version := 7
  phase_eq := rfl
  created_le_updated := by decide
  version_pos := by decide

def approval (plan : RemediationPlan) : Approval where
  approvalId := "approval_1"
  tenantId := plan.tenantId
  changeId := plan.changeId
  planId := plan.planId
  planHash := calculatePlanHash plan
  planVersion := plan.version
  environment := .SANDBOX
  decision := .APPROVED
  scope := plan.steps.map (·.stepId)
  approvedBy := "owner"
  approvedByRoles := [.APPROVER]
  approvedAt := 5
  expiresAt := 10
  comment := "approved"
  approved_lt_expires := by decide
  nodup_roles := List.nodup_singleton _
  approver_role := rfl

/-- Every draft plan of the demo tenant can get a clearance. -/
def clearance {plan : RemediationPlan} (htenant : plan.tenantId = "tenant-golden")
    (howner : ∀ step ∈ plan.steps, step.agentId ≠ "owner") : Clearance plan where
  workflowExecutionId := "wf_1"
  change := change plan
  approval := approval plan
  identity := identity
  requestedAt := fun _ => 6
  evaluatedAt := fun _ => 6
  change_scope := ⟨rfl, rfl⟩
  change_workflow := rfl
  executing := rfl
  environment := rfl
  bound := ⟨rfl, rfl⟩
  approved := rfl
  approval_scope := ⟨rfl, rfl⟩
  approval_plan := ⟨rfl, rfl, rfl⟩
  approval_environment := rfl
  covers := fun _ hstep => List.mem_map_of_mem hstep
  current := fun _ _ => ⟨(by decide : (5 : Nat) ≤ 6), (by decide : (6 : Nat) < 10)⟩
  independent := fun step hstep heq => howner step hstep heq.symm
  issued := fun _ _ => ⟨rfl, htenant.symm, rfl, (by decide : (6 : Nat) < 10)⟩

theorem exists_clearance {summary : String} {plan : RemediationPlan}
    (hplan : draftPlan (request summary) evidence = .ok plan) : Nonempty (Clearance plan) := by
  obtain ⟨htenant, oldField, newField, -, hsteps, -⟩ := draftPlan_of_ok hplan
  refine ⟨clearance htenant fun step hstep => ?_⟩
  obtain ⟨spec, hspec, hplanned⟩ := hsteps step hstep
  rw [hplanned.agentId]
  simp only [proposalSpecs, List.mem_cons, List.not_mem_nil, or_false] at hspec
  rcases hspec with rfl | rfl | rfl
  all_goals decide

theorem exists_plan {request : FleetAnalysisRequest}
    (h : (draftPlan request evidence).isOk = true) :
    ∃ plan, draftPlan request evidence = .ok plan := by
  cases hplan : draftPlan request evidence with
  | error e =>
    rw [hplan] at h
    cases h
  | ok plan => exact ⟨plan, rfl⟩

theorem checked_event {summary : String} (h : nonEmptyStr summary = .ok summary) :
    (event summary).Checked where
  tenantId := (by decide +kernel : nonEmptyStr "tenant-golden" = .ok "tenant-golden")
  summary := h
  oldVersion := (by decide +kernel : nonEmptyStr "1.4.0" = .ok "1.4.0")
  newVersion := (by decide +kernel : nonEmptyStr "2.0.0" = .ok "2.0.0")

end PlannerDemo

open PlannerDemo in
/-- The rename of the repository's own demonstration. -/
theorem draftPlan_executable_renamed :
    ∃ plan, draftPlan (request "Rename customer_id to customer_uuid") evidence = .ok plan ∧
      ∃ clearance : Clearance plan, ∀ step ∈ plan.steps, clearance.Executable step := by
  obtain ⟨plan, hplan⟩ := @exists_plan (request "Rename customer_id to customer_uuid")
    (by decide +kernel)
  obtain ⟨clearance⟩ := exists_clearance hplan
  refine ⟨plan, hplan, clearance,
    (draftPlan_executable_iff (checked_event (by decide +kernel)) hplan clearance).mpr
      ⟨⟨"customer_id", "customer_uuid", fieldTransition_eq_ok_iff.mp (by decide +kernel),
        by decide, by decide, by decide⟩, inOwnScope_of_isLiteral (by decide) _⟩⟩

open PlannerDemo in
/-- The summary `Upgrade the customer API` names no fields: the plan is about the fields `1.4.0`
and `2.0.0`, which the gateway refuses. -/
theorem not_draftPlan_executable :
    ¬ ∀ [Sha256] [Uuid5] (request : FleetAnalysisRequest) (evidence : List EvidenceItem)
      (plan : RemediationPlan), request.event.Checked → draftPlan request evidence = .ok plan →
      ∀ clearance : Clearance plan, ∀ step ∈ plan.steps, clearance.Executable step := by
  intro h
  obtain ⟨plan, hplan⟩ := @exists_plan (request "Upgrade the customer API") (by decide +kernel)
  obtain ⟨clearance⟩ := exists_clearance hplan
  have hchecked : (event "Upgrade the customer API").Checked := checked_event (by decide +kernel)
  obtain ⟨-, oldField, newField, htransition, -, hspecs⟩ := draftPlan_of_ok hplan
  obtain ⟨step, hstep, hplanned⟩ := hspecs _ List.mem_cons_self
  obtain ⟨hold, hnew⟩ := htransition.stripped hchecked
  have hexecutable := h _ _ plan hchecked hplan clearance step hstep
  have hfield := ((hplanned.executable_iff clearance List.mem_cons_self hstep hold hnew).mp
    hexecutable).1.1
  have hread : fieldTransition (event "Upgrade the customer API") = .ok ("1.4.0", "2.0.0") := by
    decide +kernel
  cases hread.symm.trans (fieldTransition_eq_ok_iff.mpr htransition)
  exact absurd hfield (by decide)

end ChangeOps
