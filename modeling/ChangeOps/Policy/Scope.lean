import ChangeOps.Policy.Engine

/-!
# ChangeOps.Policy — resource scopes

The scope of a registered tool is meant to be the configuration of one tenant in one system.
The tenant id is pasted into a shell pattern, so the check means that only for tenant ids
without a meaning of their own in such patterns (`scopeExact_iff_isLiteral`).
-/

namespace ChangeOps

/-- The resources of a tenant in the system of a tool begin with this text. -/
def scopePrefix (tool : ToolRegistration) (tenantId : String) : String :=
  tool.owningAgentId ++ "://tenant/" ++ tenantId ++ "/configuration/"

/-- The scope check of a tool means what it is for, for the intents of one tenant. -/
structure ScopeExact (tool : ToolRegistration) (tenantId : String) : Prop where
  check : ∀ resource, resourceInScope tool tenantId resource = true ↔
    (scopePrefix tool tenantId).toList <+: resource.toList
  /-- An allowed intent is about a resource of its tenant. -/
  allowed : ∀ [Sha256] (input : PolicyInput) decisionId evaluatedAt, input.tool = tool →
    input.intent.tenantId = tenantId →
    (input.evaluate decisionId evaluatedAt).effect = .ALLOW →
    (scopePrefix tool tenantId).toList <+: input.intent.resource.toList
  /-- A tenant is not refused its own resource. -/
  own : ∀ [Sha256] (input : PolicyInput) evaluatedAt, input.tool = tool →
    input.intent.tenantId = tenantId →
    (scopePrefix tool tenantId).toList <+: input.intent.resource.toList →
    outsideScope ∉ input.failures evaluatedAt

theorem failWhen_eq_nil_iff {failed : Bool} {message : String} :
    failWhen failed message = [] ↔ failed = false := by
  cases failed <;> simp [failWhen]

theorem mem_failWhen_iff {failed : Bool} {message other : String} :
    other ∈ failWhen failed message ↔ failed = true ∧ other = message := by
  cases failed <;> simp [failWhen]

namespace PolicyInput

variable [Sha256]

/-- An intent that passes every check passes the scope check. -/
theorem resourceInScope_of_failures_nil {input : PolicyInput} {evaluatedAt : Time}
    (h : input.failures evaluatedAt = []) :
    resourceInScope input.tool input.intent.tenantId input.intent.resource = true := by
  simp only [failures, toolFailures, List.append_eq_nil_iff, failWhen_eq_nil_iff,
    Bool.not_eq_false'] at h
  exact h.1.2.1.1.2

/-- The scope message comes from the scope check alone. -/
theorem outsideScope_mem_failures {input : PolicyInput} {evaluatedAt : Time}
    (h : outsideScope ∈ input.failures evaluatedAt) :
    resourceInScope input.tool input.intent.tenantId input.intent.resource = false := by
  unfold failures stepFailures at h
  cases hstep : input.step? with
  | none =>
    simpa [hstep, scopeFailures, toolFailures, mem_failWhen_iff, outsideScope] using h
  | some step =>
    simpa [hstep, scopeFailures, toolFailures, mem_failWhen_iff, outsideScope] using h

end PolicyInput

/-! ## The patterns of the default registry -/

theorem plain_of_all {cs : List Char}
    (h : (cs.all fun c => c != '*' && c != '?' && c != '[' && c != ']') = true) :
    Fnmatch.Plain cs := by
  intro c hc
  have hchar := List.all_eq_true.mp h c hc
  simp only [Bool.and_eq_true, bne_iff_ne, ne_eq] at hchar
  exact ⟨hchar.1.1.1, hchar.1.1.2, hchar.1.2, hchar.2⟩

/-- Every tool of the default registry has the pattern of its system's configuration. -/
theorem defaultTools_pattern {tool : ToolRegistration} (h : tool ∈ defaultTools) :
    Fnmatch.Plain (tool.owningAgentId ++ "://tenant/").toList ∧
      tool.resourcePattern = ⟨tool.owningAgentId ++ "://tenant/", "/configuration/*"⟩ := by
  simp only [defaultTools, List.mem_cons, List.not_mem_nil, or_false] at h
  rcases h with rfl | rfl | rfl
  all_goals exact ⟨plain_of_all (by decide), by decide⟩

theorem check_iff_isLiteral {tool : ToolRegistration} (htool : tool ∈ defaultTools)
    (tenantId : String) :
    (∀ resource, resourceInScope tool tenantId resource = true ↔
      (scopePrefix tool tenantId).toList <+: resource.toList) ↔
        Fnmatch.isLiteral tenantId.toList = true := by
  obtain ⟨hplain, hpattern⟩ := defaultTools_pattern htool
  have hafter : Fnmatch.Plain "/configuration/".toList := plain_of_all (by decide)
  have hscope : (scopePrefix tool tenantId).toList =
      (tool.owningAgentId ++ "://tenant/").toList ++
        (tenantId.toList ++ "/configuration/".toList) := by
    simp only [scopePrefix, String.toList_append, List.append_assoc]
  have hformat : (tool.resourcePattern.format tenantId).toList =
      (tool.owningAgentId ++ "://tenant/").toList ++
        (tenantId.toList ++ ("/configuration/".toList ++ ['*'])) := by
    rw [hpattern, ResourcePattern.format]
    simp only [String.toList_append, List.append_assoc]
    rfl
  rw [← Fnmatch.prefixPattern_iff hplain hafter]
  unfold resourceInScope Fnmatch.fnmatchcase
  rw [hscope, hformat]
  constructor
  · intro h text
    exact String.toList_ofList (l := text) ▸ h (String.ofList text)
  · intro h resource
    exact h resource.toList

/-- The scope check of a registered tool is exact for a tenant if and only if its id contains no
`*`, no `?` and no `[` that a later `]` closes. -/
theorem scopeExact_iff_isLiteral {tool : ToolRegistration} (htool : tool ∈ defaultTools)
    (tenantId : String) :
    ScopeExact tool tenantId ↔ Fnmatch.isLiteral tenantId.toList = true := by
  constructor
  · intro h
    exact (check_iff_isLiteral htool tenantId).mp h.check
  · intro h
    have hcheck := (check_iff_isLiteral htool tenantId).mpr h
    refine ⟨hcheck, ?_, ?_⟩
    · rintro _ input decisionId evaluatedAt rfl rfl hallow
      have hnil := (input.evaluate_allow_iff decisionId evaluatedAt).mp hallow
      exact (hcheck _).mp (PolicyInput.resourceInScope_of_failures_nil hnil)
    · rintro _ input evaluatedAt rfl rfl hprefix hmem
      have hin := (hcheck _).mpr hprefix
      rw [PolicyInput.outsideScope_mem_failures hmem] at hin
      cases hin

theorem scopeExact_iff_isLiteral_demo :
    ScopeExact (registration "crm.update_field_mapping" "crm"
      ⟨"crm://tenant/", "/configuration/*"⟩ "crm-sandbox-write-v1") "tenant_demo" :=
  (scopeExact_iff_isLiteral (by decide) "tenant_demo").mpr (by decide)

/-- The tenant `tenant_*` is in the scope of every tenant whose id begins with `tenant_`. -/
theorem not_scopeExact_star :
    ¬ ∀ tool ∈ defaultTools, ∀ tenantId, ScopeExact tool tenantId := by
  intro h
  have hexact := h (registration "crm.update_field_mapping" "crm"
    ⟨"crm://tenant/", "/configuration/*"⟩ "crm-sandbox-write-v1") (by decide) "tenant_*"
  have hin := (hexact.check "crm://tenant/tenant_other/configuration/customer").mp (by decide +kernel)
  exact absurd hin (by decide +kernel)

end ChangeOps
