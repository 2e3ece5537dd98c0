import ChangeOps.AgentFleet.Planner
import ChangeOps.Lib.Dict
import ChangeOps.Lib.Fallible
import ChangeOps.Lib.Walks

/-!
# ChangeOps.AgentFleet — the derived outputs

`_derive_outputs` (`changeops_agent_fleet/fleet.py`): what the deterministic fleet answers for each of
its agents, with every lookup in the evidence and every check of the output models that the evidence
can fail. The impact analysis rests on the graph of the managed edges, the paths that
`_dependency_paths` finds in it, and the systems on them. Confidences and the checks of texts of a fixed
size are left out. `str` of a value that is no text is a parameter.
-/

namespace ChangeOps

/-! ## The analysis -/

/-- `str(value)`. -/
def strOf (repr : Json → String) : Json → String
  | .str text => text
  | value => repr value

/-- `edge[name]`. -/
def edgeItem (fields : List (String × Json)) (name : String) : Except Exn Json :=
  match fields.lookup name with
  | some value => .ok value
  | none => .error (.other name)

/-- An item of the catalog's list, as the loop adds it to the graph. -/
def addEdge (repr : Json → String) (graph : Dict String (List String)) (edge : Json) :
    Except Exn (Dict String (List String)) :=
  match edge with
  | .obj fields =>
      match fields.lookup "managed" with
      | some (.bool true) => do
          let source ← edgeItem fields "source"
          let target ← edgeItem fields "target"
          return graph.set (strOf repr source) (graph.getD (strOf repr source) [] ++ [strOf repr target])
      | _ => .ok graph
  | _ => .ok graph

/-- `raw_edges if isinstance(raw_edges, list) else []`. -/
def catalogItems (item : EvidenceItem) : List Json :=
  match item.attributes.get? "items" with
  | some (.arr items) => items
  | _ => []

/-- The nodes that edges lead to. -/
def targets (graph : Dict String (List String)) : List String :=
  (graph.entries.map Prod.snd).flatten

theorem graph_finite (graph : Dict String (List String)) :
    Walks.Finite (fun node => graph.getD node []) (targets graph) (targets graph).length := by
  have hsublist : ∀ node, (graph.getD node []).Sublist (targets graph) := by
    intro node
    unfold Dict.getD
    cases hget : graph.get? node with
    | none => exact List.nil_sublist _
    | some children =>
      exact List.sublist_flatten_of_mem (List.mem_map_of_mem (f := Prod.snd) (Dict.mem_of_get? hget))
  exact ⟨fun node => (hsublist node).subset, fun node => (hsublist node).length_le⟩

/-- `_dependency_paths`: the rounds are enough for any graph. -/
def dependencyPaths (source : String) (graph : Dict String (List String)) : List (List String) :=
  (Walks.loop (fun node => graph.getD node [])
    (Walks.rounds (targets graph) (targets graph).length [[source]]) [[source]] []).get
    (Walks.loop_isSome (graph_finite graph) (Nat.le_refl _) [])

/-- `dict.fromkeys(keys)`. -/
def fromKeys (keys : List String) : Dict String Unit :=
  keys.foldl (fun d key => d.set key ()) .empty

/-- The systems on some paths, or the subject. -/
def systemsOn (paths : List (List String)) (subject : String) : List String :=
  match (fromKeys paths.flatten).entries.map Prod.fst with
  | [] => [subject]
  | nodes => nodes

/-- The target of an unmanaged item of the catalog's list. -/
def unmanagedTarget (repr : Json → String) (edge : Json) : Except Exn (Option String) :=
  match edge with
  | .obj fields =>
      match fields.lookup "managed" with
      | some (.bool false) => do return some (strOf repr (← edgeItem fields "target"))
      | _ => .ok none
  | _ => .ok none

/-- What the catalog's list says about a subject. -/
structure Dependencies where
  paths : List (List String)
  affected : List String
  unmanaged : List String

/-- The part of `_derive_outputs` that reads the catalog's list. -/
def deriveDependencies (repr : Json → String) (request : FleetAnalysisRequest)
    (evidence : List EvidenceItem) : Except Exn Dependencies := do
  let item ← byId evidence "catalog-dependencies"
  let graph ← (catalogItems item).foldlM (addEdge repr) .empty
  let unmanaged ← (catalogItems item).mapM (unmanagedTarget repr)
  let paths := dependencyPaths request.event.subject.systemId graph
  return {
    paths := paths
    affected := systemsOn paths request.event.subject.systemId
    unmanaged := unmanaged.filterMap id }

/-! ## The outputs -/

/-- `Reference`. -/
def referenceStr (text : String) : Except Exn String :=
  let stripped := stripWhitespace text
  if stripped.length < 1 then
    .error (.validationError "String should have at least 1 character")
  else if 2048 < stripped.length then
    .error (.validationError "String should have at most 2048 characters")
  else .ok stripped

/-- `AGENT_IDS`. -/
def agentIds : List String :=
  ["orchestrator", "impact-analysis", "compliance", "crm", "analytics", "support", "verification"]

structure OrchestrationDirective where
  tenantId : String
  changeId : String
  normalizedObjective : String
  selectedAgentIds : List String
  evidenceRefs : List String
  unknowns : List String

def deriveOrchestration (request : FleetAnalysisRequest) (oldField newField : String)
    (impactRefs unmanaged : List String) : Except Exn OrchestrationDirective := do
  let objective ← nonEmptyStr ("Assess and propose sandbox-safe migration from " ++ oldField ++ " to " ++
    newField ++ " across managed dependencies.")
  let refs ← impactRefs.mapM referenceStr
  let unknowns ← unmanaged.mapM fun target =>
    nonEmptyStr ("Unmanaged dependency " ++ target ++ " requires owner-led follow-up.")
  return {
    tenantId := request.event.tenantId
    changeId := request.changeId
    normalizedObjective := objective
    selectedAgentIds := agentIds.filter (· ≠ "orchestrator")
    evidenceRefs := refs
    unknowns := unknowns }

/-- An `ImpactAnalysis`; each of its paths cites the catalog's dependencies. -/
structure ImpactAnalysis where
  tenantId : String
  changeId : String
  affectedSystems : List String
  dependencyPaths : List (List String)
  severity : RiskLevel
  evidenceRefs : List String
  ownerRefs : List String
  unknowns : List String

def deriveImpact (repr : Json → String) (request : FleetAnalysisRequest)
    (evidence : List EvidenceItem) (dependencies : Dependencies) (impactRefs memoryRefs : List String) :
    Except Exn ImpactAnalysis := do
  let paths ← dependencies.paths.mapM fun path => path.mapM nonEmptyStr
  let contract ← byId evidence "catalog-contract"
  let affected ← dependencies.affected.mapM nonEmptyStr
  let refs ← impactRefs.mapM referenceStr
  let owner ← referenceStr
    (strOf repr ((contract.attributes.get? "owner").getD (.str "owner://unknown")))
  let unknowns ← dependencies.unmanaged.mapM fun target =>
    nonEmptyStr ("The unmanaged " ++ target ++ " impact is not automatically remediable.")
  return {
    tenantId := request.event.tenantId
    changeId := request.changeId
    affectedSystems := affected
    dependencyPaths := paths
    severity := .HIGH
    evidenceRefs := refs
    ownerRefs := [owner]
    unknowns := unknowns ++ (memoryRefs.take 1).map fun _ =>
      "Historical incident memory must be corroborated against current platform evidence." }

/-- `_required_string_tuple`. -/
def requiredStringTuple : Json → Except Exn (List String)
  | .arr items => items.mapM fun
      | .str text => .ok text
      | _ => .error (.valueError "expected an evidence list containing only strings")
  | _ => .error (.valueError "expected an evidence list containing only strings")

structure ComplianceAnalysis where
  tenantId : String
  changeId : String
  applicablePolicyIds : List String
  requiredApprovals : List String
  requiredEvidence : List String
  forbiddenActions : List String
  retentionRequirements : List String
  missingPolicyData : List String
  evidenceRefs : List String

/-- `_compliance_output`. -/
def complianceOutput (request : FleetAnalysisRequest) (policyEvidence : EvidenceItem) :
    Except Exn ComplianceAnalysis := do
  let policy := policyEvidence.attributes.fields
  let policyId ← requiredString (← edgeItem policy "policy_id")
  let approvals ← requiredStringTuple (← edgeItem policy "required_approvals")
  let required ← requiredStringTuple (← edgeItem policy "required_evidence")
  let forbidden ← requiredStringTuple (← edgeItem policy "forbidden_actions")
  let retention ← requiredStringTuple (← edgeItem policy "retention_requirements")
  return {
    tenantId := request.event.tenantId
    changeId := request.changeId
    applicablePolicyIds := [← nonEmptyStr policyId]
    requiredApprovals := ← approvals.mapM nonEmptyStr
    requiredEvidence := ← required.mapM nonEmptyStr
    forbiddenActions := ← forbidden.mapM nonEmptyStr
    retentionRequirements := ← retention.mapM nonEmptyStr
    missingPolicyData := ["tenant-specific change window is not yet available"]
    evidenceRefs := [← referenceStr policyEvidence.evidenceId] }

structure VerificationProposal where
  tenantId : String
  changeId : String
  checks : List String
  partialResultHandling : String
  failureHandling : String
  evidenceRefs : List String

def deriveVerification (request : FleetAnalysisRequest) (evidence : List EvidenceItem) :
    Except Exn VerificationProposal := do
  let refs ← (evidence.map (·.evidenceId)).mapM referenceStr
  return {
    tenantId := request.event.tenantId
    changeId := request.changeId
    checks := ["run customer API contract suite", "run CRM synchronization test",
      "run analytics data-quality validation", "run support lookup test", "check audit completeness"]
    partialResultHandling :=
      "Report partial and stop completion until every required check passes."
    failureHandling := "Request deterministic rollback; do not remediate directly."
    evidenceRefs := refs }

/-- The outputs, by agent. -/
structure FleetOutputs where
  orchestrator : OrchestrationDirective
  impactAnalysis : ImpactAnalysis
  compliance : ComplianceAnalysis
  proposals : List RemediationProposal
  verification : VerificationProposal

/-- The identifiers of the items of the memory. -/
def memoryRefs (evidence : List EvidenceItem) : List String :=
  (evidence.map (·.evidenceId)).filter fun evidenceId => "memory-".toList.isPrefixOf evidenceId.toList

/-- `_derive_outputs`. -/
def deriveOutputs [Uuid5] (repr : Json → String) (request : FleetAnalysisRequest)
    (evidence : List EvidenceItem) : Except Exn FleetOutputs := do
  let (oldField, newField) ← fieldTransition request.event
  let dependencies ← deriveDependencies repr request evidence
  let impactRefs := "catalog-contract" :: "catalog-dependencies" :: memoryRefs evidence
  let orchestrator ← deriveOrchestration request oldField newField impactRefs dependencies.unmanaged
  let impact ← deriveImpact repr request evidence dependencies impactRefs (memoryRefs evidence)
  let compliance ← complianceOutput request (← byId evidence "policy-sandbox-change")
  let proposals ← proposalSpecs.mapM (deriveProposal request evidence oldField newField)
  let verification ← deriveVerification request evidence
  return ⟨orchestrator, impact, compliance, proposals, verification⟩

/-! ## Dependencies -/

/-- A name that passes the check of its field unchanged. -/
abbrev SystemName := { name : String // nonEmptyStr name = .ok name }

/-- An edge of the catalog. -/
structure DependencyEdge where
  source : SystemName
  target : SystemName
  managed : Bool

def DependencyEdge.modelDump (edge : DependencyEdge) : Json :=
  .obj [("managed", .bool edge.managed), ("source", .str edge.source.1), ("target", .str edge.target.1)]

/-- A managed edge leads from one system to the other. -/
def Managed (edges : List DependencyEdge) (a b : String) : Prop :=
  ∃ edge ∈ edges, edge.managed = true ∧ edge.source.1 = a ∧ edge.target.1 = b

/-- Managed edges lead from one system to the other. -/
def Reachable (edges : List DependencyEdge) : String → String → Prop :=
  Relation.ReflTransGen (Managed edges)

/-- Each system that can be reached, once. -/
structure ExactlyReachable (edges : List DependencyEdge) (subject : String) (systems : List String) :
    Prop where
  nodup : systems.Nodup
  mem_iff : ∀ system, system ∈ systems ↔ Reachable edges subject system

/-- A path of managed edges from the subject that repeats no system and ends in a system which no
managed edge leaves. -/
structure WayOut (edges : List DependencyEdge) (subject : String) (path : List String) : Prop where
  starts : path.head? = some subject
  follows : path.IsChain (Managed edges)
  nodup : path.Nodup
  ends : ∃ last, path.getLast? = some last ∧ ∀ next, ¬ Managed edges last next

/-- Every other system that can be reached from the subject is on a way out. -/
def LeadsOut (edges : List DependencyEdge) (subject : String) : Prop :=
  ∀ system, Reachable edges subject system →
    system = subject ∨ ∃ path, WayOut edges subject path ∧ system ∈ path

/-! ## The graph -/

theorem addEdge_modelDump (repr : Json → String) (graph : Dict String (List String))
    (edge : DependencyEdge) : addEdge repr graph edge.modelDump = .ok (if edge.managed then
      graph.set edge.source.1 (graph.getD edge.source.1 [] ++ [edge.target.1]) else graph) := by
  cases hmanaged : edge.managed <;>
    simp [addEdge, DependencyEdge.modelDump, hmanaged, List.lookup_cons, edgeItem, strOf, bind,
      Except.bind, pure, Except.pure]

/-- The targets of a system's managed edges, in the order of the catalog. -/
def managedTargets (edges : List DependencyEdge) (node : String) : List String :=
  (edges.filter fun edge => edge.managed && edge.source.1 = node).map (·.target.1)

/-- The graph of a catalog. -/
theorem foldlM_addEdge (repr : Json → String) (edges : List DependencyEdge)
    (graph : Dict String (List String)) :
    ∃ graph', (edges.map DependencyEdge.modelDump).foldlM (addEdge repr) graph = .ok graph' ∧
      ∀ node, graph'.getD node [] = graph.getD node [] ++ managedTargets edges node := by
  induction edges generalizing graph with
  | nil => exact ⟨graph, rfl, fun node => (List.append_nil _).symm⟩
  | cons edge edges ih =>
    obtain ⟨graph', hfold, hnodes⟩ := ih (if edge.managed then
      graph.set edge.source.1 (graph.getD edge.source.1 [] ++ [edge.target.1]) else graph)
    refine ⟨graph', ?_, fun node => ?_⟩
    · rw [List.map_cons, List.foldlM_cons, addEdge_modelDump]
      exact hfold
    · rw [hnodes, managedTargets, managedTargets, List.filter_cons]
      cases hmanaged : edge.managed with
      | false => simp
      | true =>
        by_cases hsource : edge.source.1 = node
        · simp [hsource, Dict.getD]
        · simp [hsource, Dict.getD, Dict.get?_set_ne _ _ (Ne.symm hsource)]

theorem mem_managedTargets {edges : List DependencyEdge} {a b : String} :
    b ∈ managedTargets edges a ↔ Managed edges a b := by
  simp [managedTargets, Managed, and_assoc]

/-! ## The paths -/

theorem mem_dependencyPaths {source : String} {graph : Dict String (List String)}
    {path : List String} : path ∈ dependencyPaths source graph ↔
      Walks.Route (fun node => graph.getD node []) source path ∧
        Walks.Ended (fun node => graph.getD node []) path := by
  have hloop := Walks.mem_loop (Option.some_get (Walks.loop_isSome (graph_finite graph)
    (Nat.le_refl (Walks.rounds (targets graph) (targets graph).length [[source]])) [])).symm path
  rw [dependencyPaths, hloop]
  simp [Walks.grows_singleton_iff]

/-- An item of the catalog's list that the graph takes as an edge. -/
def ManagedItem (repr : Json → String) (items : List Json) (a b : String) : Prop :=
  ∃ fields, .obj fields ∈ items ∧ fields.lookup "managed" = some (.bool true) ∧
    (∃ source, fields.lookup "source" = some source ∧ strOf repr source = a) ∧
    ∃ target, fields.lookup "target" = some target ∧ strOf repr target = b

theorem edgeItem_eq_ok {fields : List (String × Json)} {name : String} {value : Json}
    (h : edgeItem fields name = .ok value) : fields.lookup name = some value := by
  unfold edgeItem at h
  split at h
  · next found hfound =>
    cases h
    exact hfound
  · cases h

/-- The edges of the graph after an item. -/
theorem mem_addEdge {repr : Json → String} {graph graph' : Dict String (List String)} {edge : Json}
    (h : addEdge repr graph edge = .ok graph') {a b : String} (hmem : b ∈ graph'.getD a []) :
    b ∈ graph.getD a [] ∨ ManagedItem repr [edge] a b := by
  unfold addEdge at h
  split at h
  · next fields =>
    split at h
    · next hmanaged =>
      obtain ⟨source, hsource, h⟩ := Fallible.bind_eq_ok_iff.mp h
      obtain ⟨target, htarget, h⟩ := Fallible.bind_eq_ok_iff.mp h
      cases h
      rw [Dict.getD_set] at hmem
      split_ifs at hmem with hkey
      · rcases List.mem_append.mp hmem with hold | hnew
        · exact .inl (hkey ▸ hold)
        · exact .inr ⟨fields, List.mem_singleton_self _, hmanaged,
            ⟨source, edgeItem_eq_ok hsource, hkey.symm⟩,
            target, edgeItem_eq_ok htarget, (List.mem_singleton.mp hnew).symm⟩
      · exact .inl hmem
    · cases h
      exact .inl hmem
  · cases h
    exact .inl hmem

/-- The edges of a catalog's graph are its managed items. -/
theorem mem_graph {repr : Json → String} {items : List Json} {graph graph' : Dict String (List String)}
    (h : items.foldlM (addEdge repr) graph = .ok graph') {a b : String}
    (hmem : b ∈ graph'.getD a []) : b ∈ graph.getD a [] ∨ ManagedItem repr items a b := by
  induction items generalizing graph with
  | nil =>
    cases h
    exact .inl hmem
  | cons edge items ih =>
    rw [List.foldlM_cons] at h
    obtain ⟨middle, hedge, h⟩ := Fallible.bind_eq_ok_iff.mp h
    rcases ih h with hmiddle | ⟨fields, hin, hitem⟩
    · rcases mem_addEdge hedge hmiddle with hold | ⟨fields, hin, hitem⟩
      · exact .inl hold
      · exact .inr ⟨fields, List.mem_singleton.mp hin ▸ List.mem_cons_self, hitem⟩
    · exact .inr ⟨fields, List.mem_cons_of_mem _ hin, hitem⟩

/-! ## The systems on them -/

theorem mem_foldl_set (keys : List String) (d : Dict String Unit) (key : String) :
    key ∈ (keys.foldl (fun d key => d.set key ()) d).entries.map Prod.fst ↔
      key ∈ d.entries.map Prod.fst ∨ key ∈ keys := by
  induction keys generalizing d with
  | nil => simp
  | cons first keys ih =>
    rw [List.foldl_cons, ih, List.mem_cons]
    show key ∈ (Dict.put first () d.entries).map Prod.fst ∨ key ∈ keys ↔ _
    rw [Dict.mem_keys_put]
    tauto

theorem mem_fromKeys {keys : List String} {key : String} :
    key ∈ (fromKeys keys).entries.map Prod.fst ↔ key ∈ keys := by
  rw [fromKeys, mem_foldl_set]
  simp [Dict.empty]

theorem nodup_systemsOn (paths : List (List String)) (subject : String) :
    (systemsOn paths subject).Nodup := by
  have hnodup := (fromKeys paths.flatten).nodup
  unfold systemsOn
  cases hnodes : (fromKeys paths.flatten).entries.map Prod.fst with
  | nil => exact List.nodup_singleton subject
  | cons node nodes =>
    rw [hnodes] at hnodup
    exact hnodup

/-- Paths that start at the subject are non-empty, so the subject is on them if there are any. -/
theorem mem_systemsOn {paths : List (List String)} {subject : String}
    (hstarts : ∀ path ∈ paths, path.head? = some subject) {system : String} :
    system ∈ systemsOn paths subject ↔ system = subject ∨ ∃ path ∈ paths, system ∈ path := by
  have hmem : system ∈ (fromKeys paths.flatten).entries.map Prod.fst ↔
      ∃ path ∈ paths, system ∈ path := by
    rw [mem_fromKeys, List.mem_flatten]
  unfold systemsOn
  cases hnodes : (fromKeys paths.flatten).entries.map Prod.fst with
  | nil =>
    rw [hnodes] at hmem
    simp only [List.mem_singleton, ← hmem, List.not_mem_nil, or_false]
  | cons node nodes =>
    rw [hnodes] at hmem
    rw [hmem, iff_or_self]
    rintro rfl
    -- some path holds the first node, and every path begins with the subject
    have hfirst : node ∈ paths.flatten := mem_fromKeys.mp (hnodes ▸ List.mem_cons_self)
    obtain ⟨path, hpath, -⟩ := List.mem_flatten.mp hfirst
    exact ⟨path, hpath, List.mem_of_head? (hstarts path hpath)⟩

/-! ## The systems that are found -/

section Found

variable {edges : List DependencyEdge} {subject : String} {graph : Dict String (List String)}

/-- A path that `_dependency_paths` returns is a way out, of two systems at least. -/
theorem mem_dependencyPaths_iff (hgraph : ∀ node, graph.getD node [] = managedTargets edges node)
    {path : List String} :
    path ∈ dependencyPaths subject graph ↔ WayOut edges subject path ∧ 1 < path.length := by
  have hedge : Walks.Edge (fun node => graph.getD node []) = Managed edges := by
    funext a b
    rw [Walks.Edge, hgraph, mem_managedTargets]
  have hleaf : ∀ last, graph.getD last [] = [] ↔ ∀ next, ¬ Managed edges last next := by
    intro last
    rw [hgraph, List.eq_nil_iff_forall_not_mem]
    simp only [mem_managedTargets]
  rw [mem_dependencyPaths]
  constructor
  · rintro ⟨⟨hstarts, hfollows, hnodup⟩, last, hlast, hnone, hlength⟩
    rw [hedge] at hfollows
    exact ⟨⟨hstarts, hfollows, hnodup, last, hlast, (hleaf last).mp hnone⟩, hlength⟩
  · rintro ⟨⟨hstarts, hfollows, hnodup, last, hlast, hnone⟩, hlength⟩
    rw [← hedge] at hfollows
    exact ⟨⟨hstarts, hfollows, hnodup⟩, last, hlast, (hleaf last).mpr hnone, hlength⟩

/-- A system on a way out can be reached. -/
theorem WayOut.reachable {path : List String} (h : WayOut edges subject path) {system : String}
    (hmem : system ∈ path) : Reachable edges subject system := by
  refine List.IsChain.induction (Reachable edges subject) path h.follows
    (fun _ _ hedge hreached => hreached.tail hedge) (fun hne => ?_) system hmem
  have hhead := h.starts
  rw [List.head?_eq_some_head hne] at hhead
  rw [Option.some.inj hhead]
  exact .refl

theorem mem_affected_iff (hgraph : ∀ node, graph.getD node [] = managedTargets edges node)
    {system : String} : system ∈ systemsOn (dependencyPaths subject graph) subject ↔
      system = subject ∨ ∃ path, WayOut edges subject path ∧ system ∈ path := by
  rw [mem_systemsOn fun path hpath => ((mem_dependencyPaths_iff hgraph).mp hpath).1.starts]
  simp only [mem_dependencyPaths_iff hgraph]
  constructor
  · rintro (rfl | ⟨path, ⟨hout, -⟩, hmem⟩)
    · exact .inl rfl
    · exact .inr ⟨path, hout, hmem⟩
  · rintro (rfl | ⟨path, hout, hmem⟩)
    · exact .inl rfl
    · by_cases hlength : 1 < path.length
      · exact .inr ⟨path, ⟨hout, hlength⟩, hmem⟩
      · -- the only path of one system is the subject's
        obtain ⟨rest, rfl⟩ : ∃ rest, path = subject :: rest := List.head?_eq_some_iff.mp hout.starts
        have hrest : rest = [] := by
          rw [List.length_cons] at hlength
          exact List.length_eq_zero_iff.mp (by omega)
        rw [hrest] at hmem
        exact .inl (List.mem_singleton.mp hmem)

/-- What is found can be reached, and everything that can be reached is found if there is a way out
for it. -/
theorem exactlyReachable_iff (hgraph : ∀ node, graph.getD node [] = managedTargets edges node) :
    ExactlyReachable edges subject (systemsOn (dependencyPaths subject graph) subject) ↔
      LeadsOut edges subject := by
  constructor
  · intro h system hreachable
    exact (mem_affected_iff hgraph).mp ((h.mem_iff system).mpr hreachable)
  · intro h
    refine ⟨nodup_systemsOn _ _, fun system => ?_⟩
    rw [mem_affected_iff hgraph]
    constructor
    · rintro (rfl | ⟨path, hout, hmem⟩)
      · exact .refl
      · exact hout.reachable hmem
    · exact h system

/-- Every system that can be reached has a checked name. -/
theorem checked_of_reachable (hsubject : nonEmptyStr subject = .ok subject) {system : String}
    (h : Reachable edges subject system) : nonEmptyStr system = .ok system := by
  cases h with
  | refl => exact hsubject
  | tail _ hedge =>
    obtain ⟨edge, -, -, -, rfl⟩ := hedge
    exact edge.target.2

/-- Without cycles every system is on a way out. -/
theorem leadsOut_of_acyclic (hacyclic : ∀ system, ¬ Relation.TransGen (Managed edges) system system)
    (subject : String) : LeadsOut edges subject := by
  have hedge : Walks.Edge (managedTargets edges) = Managed edges := by
    funext a b
    rw [Walks.Edge, mem_managedTargets]
  have hfinite : Walks.Finite (managedTargets edges) (edges.map (·.target.1)) edges.length := by
    have hsublist : ∀ a, (managedTargets edges a).Sublist (edges.map (·.target.1)) :=
      fun a => List.filter_sublist.map _
    refine ⟨fun a => (hsublist a).subset, fun a => ?_⟩
    have hlength := (hsublist a).length_le
    rwa [List.length_map] at hlength
  intro system hreachable
  obtain ⟨path, hne, hfollows, hhead, hlast⟩ :=
    List.exists_isChain_ne_nil_of_relationReflTransGen hreachable
  have hroute : Walks.Route (managedTargets edges) subject path := by
    refine ⟨?_, hedge ▸ hfollows, Walks.nodup_of_acyclic (hedge ▸ hacyclic) (hedge ▸ hfollows)⟩
    rw [List.head?_eq_some_head hne, hhead]
  obtain ⟨rest, last, hrest, hend, hleaf⟩ := hroute.exists_end hfinite (hedge ▸ hacyclic)
  refine .inr ⟨path ++ rest, ⟨hrest.starts, hedge ▸ hrest.follows, hrest.nodup, last, hend, ?_⟩, ?_⟩
  · intro next hnext
    rw [← mem_managedTargets, hleaf] at hnext
    cases hnext
  · exact List.mem_append_left _ (hlast ▸ List.getLast_mem hne)

end Found

/-- What the impact analysis among the outputs was made of. -/
theorem affected_of_outputs [Uuid5] {repr : Json → String} {request : FleetAnalysisRequest}
    {evidence : List EvidenceItem} {outputs : FleetOutputs} {item : EvidenceItem}
    (hitem : byId evidence "catalog-dependencies" = .ok item)
    (h : deriveOutputs repr request evidence = .ok outputs) :
    ∃ graph, (catalogItems item).foldlM (addEdge repr) .empty = .ok graph ∧
      (systemsOn (dependencyPaths request.event.subject.systemId graph)
        request.event.subject.systemId).mapM nonEmptyStr = .ok outputs.impactAnalysis.affectedSystems := by
  obtain ⟨fields, -, h⟩ := Fallible.bind_eq_ok_iff.mp h
  obtain ⟨dependencies, hdependencies, h⟩ := Fallible.bind_eq_ok_iff.mp h
  obtain ⟨orchestrator, -, h⟩ := Fallible.bind_eq_ok_iff.mp h
  obtain ⟨impact, himpact, h⟩ := Fallible.bind_eq_ok_iff.mp h
  obtain ⟨policy, -, h⟩ := Fallible.bind_eq_ok_iff.mp h
  obtain ⟨compliance, -, h⟩ := Fallible.bind_eq_ok_iff.mp h
  obtain ⟨proposals, -, h⟩ := Fallible.bind_eq_ok_iff.mp h
  obtain ⟨verification, -, h⟩ := Fallible.bind_eq_ok_iff.mp h
  cases h
  -- the paths and systems are those of the catalog's list
  unfold deriveDependencies at hdependencies
  obtain ⟨found, hfound, hdependencies⟩ := Fallible.bind_eq_ok_iff.mp hdependencies
  rw [hitem] at hfound
  cases hfound
  obtain ⟨graph, hgraph, hdependencies⟩ := Fallible.bind_eq_ok_iff.mp hdependencies
  obtain ⟨unmanaged, -, hdependencies⟩ := Fallible.bind_eq_ok_iff.mp hdependencies
  cases hdependencies
  unfold deriveImpact at himpact
  obtain ⟨paths, -, himpact⟩ := Fallible.bind_eq_ok_iff.mp himpact
  obtain ⟨contract, -, himpact⟩ := Fallible.bind_eq_ok_iff.mp himpact
  obtain ⟨affected, haffected, himpact⟩ := Fallible.bind_eq_ok_iff.mp himpact
  obtain ⟨refs, -, himpact⟩ := Fallible.bind_eq_ok_iff.mp himpact
  obtain ⟨owner, -, himpact⟩ := Fallible.bind_eq_ok_iff.mp himpact
  obtain ⟨unknowns, -, himpact⟩ := Fallible.bind_eq_ok_iff.mp himpact
  cases himpact
  exact ⟨graph, hgraph, haffected⟩

/-- The systems among the outputs for a catalog's edges. -/
theorem affectedSystems_eq [Uuid5] {repr : Json → String} {request : FleetAnalysisRequest}
    {evidence : List EvidenceItem} {edges : List DependencyEdge} {outputs : FleetOutputs}
    {item : EvidenceItem} (hitem : byId evidence "catalog-dependencies" = .ok item)
    (hedges : catalogItems item = edges.map DependencyEdge.modelDump)
    (hsubject : nonEmptyStr request.event.subject.systemId = .ok request.event.subject.systemId)
    (h : deriveOutputs repr request evidence = .ok outputs) :
    ∃ graph : Dict String (List String), (∀ node, graph.getD node [] = managedTargets edges node) ∧
      outputs.impactAnalysis.affectedSystems =
        systemsOn (dependencyPaths request.event.subject.systemId graph)
          request.event.subject.systemId := by
  obtain ⟨graph, hfold, haffected⟩ := affected_of_outputs hitem h
  obtain ⟨graph', hfold', hnodes⟩ := foldlM_addEdge repr edges .empty
  rw [hedges, hfold'] at hfold
  cases hfold
  have hgraph : ∀ node, graph.getD node [] = managedTargets edges node := hnodes
  refine ⟨graph, hgraph, ?_⟩
  -- the names are checked ones, so the output model changes none
  rw [Fallible.mapM_eq_self, Except.ok.injEq] at haffected
  · exact haffected.symm
  · intro system hmem
    rcases (mem_affected_iff hgraph).mp hmem with rfl | ⟨path, hout, hmem⟩
    · exact hsubject
    · exact checked_of_reachable hsubject (hout.reachable hmem)

/-- **The affected systems.** Whenever the outputs can be derived, the impact analysis of a catalog
lists exactly the systems that can be reached from the subject, each once, if and only if all of them
are on a way out. -/
theorem affectedSystems_exact_iff [Uuid5] (repr : Json → String) (request : FleetAnalysisRequest)
    (evidence : List EvidenceItem) (edges : List DependencyEdge) {item : EvidenceItem}
    {outputs : FleetOutputs} (hitem : byId evidence "catalog-dependencies" = .ok item)
    (hedges : catalogItems item = edges.map DependencyEdge.modelDump)
    (hsubject : nonEmptyStr request.event.subject.systemId = .ok request.event.subject.systemId)
    (houtputs : deriveOutputs repr request evidence = .ok outputs) :
    ExactlyReachable edges request.event.subject.systemId outputs.impactAnalysis.affectedSystems ↔
      LeadsOut edges request.event.subject.systemId := by
  obtain ⟨graph, hgraph, haffected⟩ := affectedSystems_eq hitem hedges hsubject houtputs
  rw [haffected]
  exact exactlyReachable_iff hgraph

namespace ImpactDemo

theorem subject_checked : nonEmptyStr "customer-api" = .ok "customer-api" := by
  unfold nonEmptyStr stripWhitespace
  decide

theorem target_checked : nonEmptyStr "crm-sync" = .ok "crm-sync" := by
  unfold nonEmptyStr stripWhitespace
  decide

/-- The subject, and the system that depends on it. -/
def subject : SystemName := ⟨"customer-api", subject_checked⟩

def target : SystemName := ⟨"crm-sync", target_checked⟩

def event : ChangeEvent where
  schemaVersion := "1.0"
  eventId := "evt_1"
  tenantId := "tenant-golden"
  eventType := "api.contract.changed"
  source := ⟨"github", "pr-42", "https://example.invalid/demo/pr/42"⟩
  occurredAt := 1
  receivedAt := 2
  subject := ⟨"customer-api", "api-contract", "customer-api-v2"⟩
  change := ⟨"Upgrade the customer API", "1.4.0", "2.0.0", []⟩
  correlationId := "correlation"
  traceId := "trace"

/-- One system depends on the other. -/
def oneWay : List DependencyEdge := [⟨subject, target, true⟩]

/-- Each depends on the other. -/
def bothWays : List DependencyEdge := [⟨subject, target, true⟩, ⟨target, subject, true⟩]

theorem fields_sorted (edges : List DependencyEdge) :
    (Json.obj [("items", .arr (edges.map DependencyEdge.modelDump))]).isSorted = true := by
  have hitems : Json.isSortedItems (edges.map DependencyEdge.modelDump) = true := by
    induction edges with
    | nil => rfl
    | cons edge edges ih =>
      rw [List.map_cons, Json.isSortedItems, ih, Bool.and_true]
      have hmanaged : decide ("managed" < "source") = true := by decide
      have hsource : decide ("source" < "target") = true := by decide
      simp only [DependencyEdge.modelDump, Json.isSorted, Json.isSortedFields, List.head?_cons,
        List.head?_nil, Option.all_some, Option.all_none, hmanaged, hsource, Bool.and_self]
  simp only [Json.isSorted, Json.isSortedFields, hitems, List.head?_nil, Option.all_none,
    Bool.and_self]

def item (edges : List DependencyEdge) : EvidenceItem :=
  ⟨"catalog-dependencies", ⟨_, fields_sorted edges⟩⟩

theorem there : Managed bothWays "customer-api" "crm-sync" :=
  ⟨_, List.mem_cons_self, rfl, rfl, rfl⟩

theorem back : Managed bothWays "crm-sync" "customer-api" :=
  ⟨_, List.mem_cons_of_mem _ List.mem_cons_self, rfl, rfl, rfl⟩

/-- A managed edge leaves every system that can be reached. -/
theorem managed_of_reachable {system : String} (h : Reachable bothWays "customer-api" system) :
    ∃ next, Managed bothWays system next := by
  cases h with
  | refl => exact ⟨_, there⟩
  | tail _ hedge =>
    obtain ⟨edge, hmem, -, -, rfl⟩ := hedge
    rcases List.mem_pair.mp hmem with rfl | rfl
    · exact ⟨_, back⟩
    · exact ⟨_, there⟩

theorem not_leadsOut : ¬ LeadsOut bothWays "customer-api" := by
  intro h
  rcases h "crm-sync" (.single there) with heq | ⟨path, hout, -⟩
  · exact absurd heq (by decide)
  · obtain ⟨last, hlast, hnone⟩ := hout.ends
    obtain ⟨next, hnext⟩ := managed_of_reachable (hout.reachable (List.mem_of_getLast? hlast))
    exact hnone next hnext

scoped instance uuids : Uuid5 := ⟨fun name => name⟩

def entry (evidenceId : String) (attributes : JsonObject) : EvidenceItem := ⟨evidenceId, attributes⟩

def systemOf (evidenceId system : String) : EvidenceItem :=
  entry evidenceId ⟨[("system_id", .str system)], rfl⟩

def policy : JsonObject where
  fields := [("forbidden_actions", .arr [.str "production changes"]),
    ("policy_id", .str "policy-sandbox-change"), ("required_approvals", .arr [.str "approver"]),
    ("required_evidence", .arr [.str "catalog-dependencies"]),
    ("retention_requirements", .arr [.str "one year"])]
  sorted := by decide +kernel

/-- The evidence around a catalog. -/
def evidence (edges : List DependencyEdge) : List EvidenceItem :=
  [entry "catalog-contract" ⟨[("owner", .str "team://customer-api")], rfl⟩, item edges,
    systemOf "crm-configuration" "crm-sync", systemOf "analytics-configuration" "customer-daily-etl",
    systemOf "support-configuration" "support-portal", entry "policy-sandbox-change" policy]

def request : FleetAnalysisRequest := ⟨"chg_1", event⟩

theorem derives (edges : List DependencyEdge)
    (h : (deriveOutputs (fun _ => "") request (evidence edges)).toOption.isSome = true) :
    ∃ outputs, deriveOutputs (fun _ => "") request (evidence edges) = .ok outputs := by
  cases hderive : deriveOutputs (fun _ => "") request (evidence edges) with
  | ok outputs => exact ⟨outputs, rfl⟩
  | error error =>
    rw [hderive] at h
    cases h

theorem derives_oneWay : ∃ outputs,
    deriveOutputs (fun _ => "") request (evidence oneWay) = .ok outputs :=
  derives oneWay (by decide +kernel)

theorem derives_bothWays : ∃ outputs,
    deriveOutputs (fun _ => "") request (evidence bothWays) = .ok outputs :=
  derives bothWays (by decide +kernel)

end ImpactDemo

open scoped ImpactDemo

open ImpactDemo in
/-- Each of two systems depends on the other: neither is an end, so no path is recorded, and the
dependent system is not listed. -/
theorem not_exactlyReachable_cycle :
    ¬ ∀ (repr : Json → String) (request : FleetAnalysisRequest) (evidence : List EvidenceItem)
      (edges : List DependencyEdge) (item : EvidenceItem) (outputs : FleetOutputs),
      byId evidence "catalog-dependencies" = .ok item →
      catalogItems item = edges.map DependencyEdge.modelDump →
      nonEmptyStr request.event.subject.systemId = .ok request.event.subject.systemId →
      deriveOutputs repr request evidence = .ok outputs →
      ExactlyReachable edges request.event.subject.systemId
        outputs.impactAnalysis.affectedSystems := by
  intro h
  obtain ⟨outputs, houtputs⟩ := derives_bothWays
  have hexact := h _ request (evidence bothWays) bothWays _ outputs rfl rfl subject_checked houtputs
  obtain ⟨graph, hgraph, haffected⟩ := affectedSystems_eq rfl rfl subject_checked houtputs
  rw [haffected] at hexact
  exact not_leadsOut ((exactlyReachable_iff hgraph).mp hexact)

open ImpactDemo in
theorem affectedSystems_exact_iff_oneWay : ∃ outputs,
    deriveOutputs (fun _ => "") request (evidence oneWay) = .ok outputs ∧
      (ExactlyReachable oneWay "customer-api" outputs.impactAnalysis.affectedSystems ↔
        LeadsOut oneWay "customer-api") := by
  obtain ⟨outputs, houtputs⟩ := derives_oneWay
  exact ⟨outputs, houtputs, affectedSystems_exact_iff (fun _ => "") request (evidence oneWay) oneWay
    rfl rfl subject_checked houtputs⟩

/-! ## The work list -/

/-- **The work list.** On any graph its rounds come to an end, with the paths that
`_dependency_paths` returns. Each of these starts at the source, follows edges of the graph, repeats no
node, has two nodes at least and ends in a node without outgoing edges; and the edges of a graph
that was built from a catalog are its managed items. -/
theorem dependencyPaths_ends (source : String) (graph : Dict String (List String)) :
    Acc (fun after before => Walks.Round (fun node => graph.getD node []) before after)
        ([[source]], []) ∧
      (∀ paths, Relation.ReflTransGen (Walks.Round fun node => graph.getD node []) ([[source]], [])
        ([], paths) ↔ paths = dependencyPaths source graph) ∧
      (∀ path ∈ dependencyPaths source graph, path.head? = some source ∧
        path.IsChain (fun a b => b ∈ graph.getD a []) ∧ path.Nodup ∧ 2 ≤ path.length ∧
        ∃ last, path.getLast? = some last ∧ graph.getD last [] = []) ∧
      ∀ (repr : Json → String) (items : List Json), items.foldlM (addEdge repr) .empty = .ok graph →
        ∀ path ∈ dependencyPaths source graph, path.IsChain (ManagedItem repr items) := by
  have hfinite := graph_finite graph
  have hloop : Walks.loop (fun node => graph.getD node []) _ [[source]] [] =
      some (dependencyPaths source graph) :=
    (Option.some_get (Walks.loop_isSome hfinite (Nat.le_refl _) [])).symm
  have hroute : ∀ path ∈ dependencyPaths source graph, path.head? = some source ∧
      path.IsChain (fun a b => b ∈ graph.getD a []) ∧ path.Nodup ∧ 2 ≤ path.length ∧
      ∃ last, path.getLast? = some last ∧ graph.getD last [] = [] := by
    intro path hpath
    obtain ⟨⟨hstarts, hfollows, hnodup⟩, last, hlast, hnone, hlength⟩ := mem_dependencyPaths.mp hpath
    exact ⟨hstarts, hfollows, hnodup, hlength, last, hlast, hnone⟩
  refine ⟨Walks.acc_round hfinite _, fun paths => ?_, hroute, fun repr items hgraph path hpath => ?_⟩
  · rw [← Walks.exists_loop_iff]
    constructor
    · rintro ⟨n, hn⟩
      -- both numbers of rounds are enough
      have hmore := Walks.loop_mono (Nat.le_max_right n _) hloop
      rw [Walks.loop_mono (Nat.le_max_left n _) hn] at hmore
      exact Option.some.inj hmore
    · rintro rfl
      exact ⟨_, hloop⟩
  · refine (hroute path hpath).2.1.imp fun a b hedge => ?_
    rcases mem_graph hgraph hedge with hempty | hitem
    · cases hempty
    · exact hitem

namespace ImpactDemo

theorem portal_checked : nonEmptyStr "support-portal" = .ok "support-portal" := by
  unfold nonEmptyStr stripWhitespace
  decide

/-- A cycle with a way out of it. -/
def withExit : List DependencyEdge := bothWays ++ [⟨target, ⟨"support-portal", portal_checked⟩, true⟩]

theorem paths_withExit :
    ((withExit.map DependencyEdge.modelDump).foldlM (addEdge fun _ => "") .empty).map
      (dependencyPaths "customer-api") = .ok [["customer-api", "crm-sync", "support-portal"]] := by
  decide +kernel

end ImpactDemo

open ImpactDemo in
theorem dependencyPaths_ends_withExit : ∃ graph,
    (withExit.map DependencyEdge.modelDump).foldlM (addEdge fun _ => "") .empty = .ok graph ∧
      dependencyPaths "customer-api" graph = [["customer-api", "crm-sync", "support-portal"]] ∧
      ∀ path ∈ dependencyPaths "customer-api" graph,
        path.IsChain (ManagedItem (fun _ => "") (withExit.map DependencyEdge.modelDump)) := by
  obtain ⟨graph, hfold, hpaths⟩ := Fallible.map_eq_ok_iff.mp paths_withExit
  exact ⟨graph, hfold, hpaths.symm,
    (dependencyPaths_ends "customer-api" graph).2.2.2 _ _ hfold⟩

end ChangeOps
