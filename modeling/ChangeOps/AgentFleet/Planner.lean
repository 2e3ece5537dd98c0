import ChangeOps.Lib.Words
import ChangeOps.Workflow.Models

/-!
# ChangeOps.AgentFleet — the planner of the deterministic fleet

The fields that an event is about (`changeops_agent_fleet/evidence.py`), the remediation
proposals of `_derive_outputs` and the draft plan of `_build_plan` (`fleet.py`). In the
deterministic mode every agent answers with the output that was derived for it, so the plan is
built from the derived proposals. The outputs of the other agents do not reach the plan: an
analysis in which one of them is refused returns none. Texts of a fixed size are not checked.
-/

namespace ChangeOps

/-- `uuid5(NAMESPACE_URL, name).hex`. -/
class Uuid5 where
  hex : String → String

/-! ## The fields of an event -/

/-- The blanks of `str.split()`: Unicode's `White_Space` and the four separators of ASCII. -/
def isBlank (c : Char) : Bool := isWhiteSpace c || (0x1C ≤ c.toNat && c.toNat ≤ 0x1F)

/-- The marks around a name in a sentence. -/
def isMark (c : Char) : Bool := "`'\".,".toList.contains c

/-- The separator of the two names. -/
def separator : List Char := " to ".toList

/-- `_field_from_event`. -/
def fieldFromEvent (event : ChangeEvent) (old : Bool) : Except Exn String :=
  match Words.rsplit separator event.change.summary.toList with
  | some (before, after) =>
      match if old then Words.lastWord? isBlank before else Words.firstWord? isBlank after with
      | some value => .ok (String.ofList (Words.strip isMark value))
      | none => .error (.other "list index out of range")
  | none => .ok (if old then event.change.oldVersion else event.change.newVersion)

/-- `field_transition`. -/
def fieldTransition (event : ChangeEvent) : Except Exn (String × String) := do
  let oldField ← fieldFromEvent event true
  let newField ← fieldFromEvent event false
  return (oldField, newField)

/-! ## Evidence -/

/-- An `EvidenceItem`, as far as the planner reads it. -/
structure EvidenceItem where
  evidenceId : String
  attributes : JsonObject

structure FleetAnalysisRequest where
  changeId : String
  event : ChangeEvent

/-- `by_id[evidence_id]`: the last item with an identifier counts. -/
def byId (evidence : List EvidenceItem) (evidenceId : String) : Except Exn EvidenceItem :=
  match evidence.reverse.find? fun item => item.evidenceId = evidenceId with
  | some item => .ok item
  | none => .error (.other evidenceId)

/-- `_required_string`. -/
def requiredString : Json → Except Exn String
  | .str value =>
      if value = "" then .error (.valueError "expected a non-empty evidence string") else .ok value
  | _ => .error (.valueError "expected a non-empty evidence string")

/-- `_required_string(by_id[configuration_ref].attributes["system_id"])`. -/
def targetSystem (evidence : List EvidenceItem) (configurationRef : String) :
    Except Exn String := do
  let item ← byId evidence configurationRef
  match item.attributes.get? "system_id" with
  | some value => requiredString value
  | none => .error (.other "system_id")

/-! ## Proposals -/

/-- One of the `proposal_specs`. -/
structure ProposalSpec where
  agentId : String
  tool : String
  configurationRef : String
deriving DecidableEq, Repr

def proposalSpecs : List ProposalSpec :=
  [⟨"crm", "crm.update_field_mapping", "crm-configuration"⟩,
    ⟨"analytics", "analytics.update_field_mapping", "analytics-configuration"⟩,
    ⟨"support", "support.update_lookup_field", "support-configuration"⟩]

/-- A `RemediationProposal`, without its confidence. -/
structure RemediationProposal where
  proposalId : String
  tenantId : String
  changeId : String
  agentId : String
  targetSystem : String
  summary : String
  proposedTool : String
  targetResource : String
  proposedArguments : JsonObject
  validationActions : List String
  rollbackActions : List String
  riskLevel : RiskLevel
  requiresApproval : Bool
  evidenceRefs : List String
  unknowns : List String

/-- The arguments of a proposal. -/
def proposedArguments (oldField newField : String) : JsonObject where
  fields := [("new_field", .str newField), ("old_field", .str oldField)]
  sorted := by
    simp only [Json.isSorted, Json.isSortedFields, List.head?_cons, List.head?_nil,
      Option.all_some, Option.all_none, Bool.and_true, Bool.true_and]
    exact decide_eq_true (by decide : "new_field" < "old_field")

/-- The resource of an agent's system in a tenant. -/
def targetResource (agentId tenantId target : String) : String :=
  agentId ++ "://tenant/" ++ tenantId ++ "/configuration/" ++ target

/-- The proposal of one agent. -/
def deriveProposal [Uuid5] (request : FleetAnalysisRequest) (evidence : List EvidenceItem)
    (oldField newField : String) (spec : ProposalSpec) : Except Exn RemediationProposal := do
  let target ← targetSystem evidence spec.configurationRef
  let system ← nonEmptyStr target
  let summary ← nonEmptyStr
    ("Propose changing " ++ target ++ " from " ++ oldField ++ " to " ++ newField ++ ".")
  let resource ← nonEmptyStr (targetResource spec.agentId request.event.tenantId target)
  let validation ← nonEmptyStr ("validate " ++ target ++ " against " ++ newField)
  let rollback ← nonEmptyStr ("restore " ++ target ++ " mapping to " ++ oldField)
  return {
    proposalId := "proposal_" ++ spec.agentId ++ "_" ++
      String.ofList ((Uuid5.hex request.changeId).toList.take 12)
    tenantId := request.event.tenantId
    changeId := request.changeId
    agentId := spec.agentId
    targetSystem := system
    summary := summary
    proposedTool := spec.tool
    targetResource := resource
    proposedArguments := proposedArguments oldField newField
    validationActions := [validation]
    rollbackActions := [rollback]
    riskLevel := .HIGH
    requiresApproval := true
    evidenceRefs := [spec.configurationRef, "catalog-dependencies"]
    unknowns := [] }

/-! ## The plan -/

/-- The step for a proposal, in its place. -/
def planStep (request : FleetAnalysisRequest) (oldField : String)
    (entry : RemediationProposal × Nat) : Except Exn RemediationStep := do
  let idempotencyKey ← nonEmptyStr
    (request.changeId ++ ":" ++ entry.1.agentId ++ ":" ++ oldField)
  return {
    stepId := "step-" ++ toString entry.2 ++ "-" ++ entry.1.agentId
    order := entry.2
    agentId := entry.1.agentId
    toolName := entry.1.proposedTool
    resource := entry.1.targetResource
    arguments := entry.1.proposedArguments
    dependsOn := []
    riskLevel := entry.1.riskLevel
    requiresApproval := true
    idempotencyKey := idempotencyKey }

/-- `_build_plan`. -/
def buildPlan [Uuid5] (request : FleetAnalysisRequest) (proposals : List RemediationProposal)
    (evidence : List EvidenceItem) : Except Exn RemediationPlan := do
  let (oldField, _) ← fieldTransition request.event
  let steps ← (proposals.zipIdx 1).mapM (planStep request oldField)
  if hne : steps ≠ [] then
    match hgraph : validateStepGraph steps with
    | .error message => .error (.validationError message)
    | .ok () =>
      return {
        planId := "plan_" ++ Uuid5.hex request.changeId
        tenantId := request.event.tenantId
        changeId := request.changeId
        version := 1
        riskLevel := .HIGH
        summary := "Draft only: three approval-gated sandbox mapping proposals."
        preconditions :=
          ["policy evaluation passes", "plan hash is approved", "snapshots exist"]
        steps := steps
        verificationSteps := ["execute the verification agent's five read-only checks"]
        rollbackSteps :=
          ["restore every changed sandbox configuration from its bound snapshot"]
        evidenceRefs := evidence.map (·.evidenceId)
        createdAt := request.event.receivedAt
        version_pos := one_le_one
        steps_ne_nil := hne
        graph := hgraph }
  else .error (.validationError "Tuple should have at least 1 item after validation, not 0")

/-- The draft plan of an analysis. -/
def draftPlan [Uuid5] (request : FleetAnalysisRequest) (evidence : List EvidenceItem) :
    Except Exn RemediationPlan := do
  let (oldField, newField) ← fieldTransition request.event
  let proposals ← proposalSpecs.mapM (deriveProposal request evidence oldField newField)
  buildPlan request proposals evidence

end ChangeOps
