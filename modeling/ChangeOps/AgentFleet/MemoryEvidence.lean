import ChangeOps.AgentFleet.Executable
import ChangeOps.AgentFleet.Impact
import ChangeOps.AgentFleet.Screening
import ChangeOps.Authentication.Identity

/-!
# ChangeOps.AgentFleet — what the memory can change

`VertexMemoryBankRetriever` (`changeops_agent_fleet/governance.py`), and what the fleet makes of its
items (`fleet.py`) in the deterministic model mode. The items of the memory are untrusted. They stand
behind the collected evidence, and the last item with an identifier counts. But each of their
identifiers begins with `memory-`, and the fleet looks up no such identifier. So whatever the Memory
Bank answers, it is cited in the plan and changes nothing else of it, nor the systems and paths of the
impact (`analysis_memory_inert`).
-/

namespace ChangeOps

open Authentication

/-! ## The Memory Bank -/

/-- What comes of a managed request. There is no body if it is not JSON. -/
inductive ManagedAnswer where
  /-- The token provider or the client raises what is not handled here. -/
  | raised (error : Exn)
  | unreachable
  | answered (status : Nat) (body : Option PyValue)

/-- `GovernanceUnavailableError(detail)`. -/
def governanceUnavailable (detail : String) : Exn := .other detail

/-- `_authorized_json`. -/
def authorizedJson : ManagedAnswer → Except Exn (List (String × PyValue))
  | .raised error => .error error
  | .unreachable => .error (governanceUnavailable "Managed governance request was unavailable.")
  | .answered status body =>
      if 400 ≤ status then
        .error (governanceUnavailable
          ("Managed governance request failed with HTTP " ++ toString status ++ "."))
      else match body with
        | none => .error (governanceUnavailable "Managed governance request was unavailable.")
        | some (.dict fields) => .ok fields
        | some _ =>
            .error (governanceUnavailable "Managed governance returned a non-object response.")

/-- `name.rsplit("/", maxsplit=1)[-1]`. -/
def lastSegment (name : String) : String := String.ofList (name.toList.rtakeWhile (· != '/'))

def memoryAttributes (name fact : String) : JsonObject where
  fields := [("fact", .str fact), ("memory_name", .str name)]
  sorted := by
    simp only [Json.isSorted, Json.isSortedFields, List.head?_cons, List.head?_nil,
      Option.all_some, Option.all_none, Bool.and_true, Bool.true_and]
    exact decide_eq_true (by decide : "fact" < "memory_name")

/-- The name and the fact of a retrieved item, if it has them. -/
def memoryFact? (item : PyValue) : Option (String × String) :=
  match item with
  | .dict fields =>
      match fields.lookup "memory" with
      | some (.dict memory) =>
          match memory.lookup "name", memory.lookup "fact" with
          | some (.str name), some (.str fact) => some (name, fact)
          | _, _ => none
      | _ => none
  | _ => none

/-- The item of a name and a fact. -/
def memoryEvidence (tenantId : String) (memory : String × String) : Except Exn EvidenceItem := do
  let memoryId := lastSegment memory.1
  let evidenceId ← nonEmptyStr ("memory-" ++ memoryId)
  let _ ← referenceStr ("memory://tenant/" ++ tenantId ++ "/managed/" ++ memoryId)
  return ⟨evidenceId, memoryAttributes memory.1 memory.2⟩

/-- `VertexMemoryBankRetriever.retrieve`. -/
def retrieveMemories (tenantId : String) (answer : ManagedAnswer) :
    Except Exn (List EvidenceItem) := do
  let payload ← authorizedJson answer
  match (payload.lookup "retrievedMemories").getD (.list []) with
  | .list retrieved =>
      ((retrieved.take 3).filterMap memoryFact?).mapM (memoryEvidence tenantId)
  | _ => .error (governanceUnavailable "Memory Bank returned an invalid memory list.")

/-- Services whose memory is the Memory Bank, which is asked for the tenant alone. -/
def FleetServices.remembering (services : FleetServices) (tenantId : String)
    (answer : ManagedAnswer) : FleetServices :=
  { services with memory := fun _ => retrieveMemories tenantId answer }

/-- An item of the memory: the fleet tells it by its identifier. -/
def EvidenceItem.IsMemory (item : EvidenceItem) : Prop :=
  "memory-".toList <+: item.evidenceId.toList

theorem isMemory_of_memoryEvidence {tenantId : String} {memory : String × String}
    {item : EvidenceItem} (h : memoryEvidence tenantId memory = .ok item) : item.IsMemory := by
  obtain ⟨evidenceId, hid, h⟩ := Fallible.bind_eq_ok_iff.mp h
  obtain ⟨reference, -, h⟩ := Fallible.bind_eq_ok_iff.mp h
  cases h
  have hfront : "memory-".toList = 'm' :: ("emory".toList ++ ['-']) := by decide
  show "memory-".toList <+: evidenceId.toList
  rw [(nonEmptyStr_of_ok hid).1]
  exact prefix_stripWhitespace hfront (by decide) (by decide)

/-- Whatever the Memory Bank answers: at most three items, all of them of the memory. -/
theorem retrieveMemories_of_ok {tenantId : String} {answer : ManagedAnswer}
    {memory : List EvidenceItem} (h : retrieveMemories tenantId answer = .ok memory) :
    memory.length ≤ 3 ∧ ∀ item ∈ memory, item.IsMemory := by
  obtain ⟨payload, -, h⟩ := Fallible.bind_eq_ok_iff.mp h
  split at h
  · next retrieved _ =>
    constructor
    · rw [Fallible.length_of_mapM h]
      exact (List.length_filterMap_le _ _).trans (List.length_take_le _ _)
    · intro item hitem
      obtain ⟨memory, -, hmemory⟩ := (Fallible.mem_mapM_iff h).mp hitem
      exact isMemory_of_memoryEvidence hmemory
  · cases h

/-! ## Looking evidence up -/

/-- An item of the memory is not found under another kind of identifier. -/
theorem byId_append {evidence memory : List EvidenceItem} (hmemory : ∀ item ∈ memory, item.IsMemory)
    {evidenceId : String} (hid : ¬ "memory-".toList <+: evidenceId.toList) :
    byId (evidence ++ memory) evidenceId = byId evidence evidenceId := by
  have hnone : memory.reverse.find? (fun item => item.evidenceId = evidenceId) = none := by
    rw [List.find?_eq_none]
    intro item hitem hsame
    rw [decide_eq_true_eq] at hsame
    have hprefix := hmemory item (List.mem_reverse.mp hitem)
    rw [EvidenceItem.IsMemory, hsame] at hprefix
    exact hid hprefix
  unfold byId
  rw [List.reverse_append, List.find?_append, hnone, Option.none_or]

section Draft

variable [Uuid5] {evidence memory : List EvidenceItem}

theorem deriveProposal_append (hmemory : ∀ item ∈ memory, item.IsMemory)
    (request : FleetAnalysisRequest) (oldField newField : String) {spec : ProposalSpec}
    (hspec : spec ∈ proposalSpecs) :
    deriveProposal request (evidence ++ memory) oldField newField spec =
      deriveProposal request evidence oldField newField spec := by
  have hids : ∀ spec ∈ proposalSpecs,
      ¬ "memory-".toList <+: spec.configurationRef.toList := by decide
  unfold deriveProposal targetSystem
  rw [byId_append hmemory (hids spec hspec)]

omit [Uuid5] in
theorem deriveDependencies_append (hmemory : ∀ item ∈ memory, item.IsMemory) (repr : Json → String)
    (request : FleetAnalysisRequest) (evidence : List EvidenceItem) :
    deriveDependencies repr request (evidence ++ memory) =
      deriveDependencies repr request evidence := by
  unfold deriveDependencies
  rw [byId_append hmemory (by decide)]

/-- A plan with other references. -/
def RemediationPlan.citing (plan : RemediationPlan) (refs : List String) : RemediationPlan :=
  { plan with evidenceRefs := refs }

/-- The evidence is only cited. -/
theorem buildPlan_citing (request : FleetAnalysisRequest)
    (proposals : List RemediationProposal) (evidence evidence' : List EvidenceItem) :
    buildPlan request proposals evidence' = (buildPlan request proposals evidence).map
      (·.citing (evidence'.map (·.evidenceId))) := by
  unfold buildPlan
  cases fieldTransition request.event with
  | error error => rfl
  | ok fields =>
    simp only [bind, Except.bind]
    cases (proposals.zipIdx 1).mapM (planStep request fields.1) with
    | error error => rfl
    | ok steps =>
      dsimp only
      by_cases hne : steps ≠ []
      · rw [dif_pos hne, dif_pos hne]
        split <;> rfl
      · rw [dif_neg hne, dif_neg hne]
        rfl

theorem draftPlan_append (hmemory : ∀ item ∈ memory, item.IsMemory)
    (request : FleetAnalysisRequest) (evidence : List EvidenceItem) :
    draftPlan request (evidence ++ memory) = (draftPlan request evidence).map
      (·.citing ((evidence ++ memory).map (·.evidenceId))) := by
  unfold draftPlan
  cases fieldTransition request.event with
  | error error => rfl
  | ok fields =>
    simp only [bind, Except.bind]
    rw [Fallible.mapM_congr fun spec hspec =>
      deriveProposal_append hmemory request fields.1 fields.2 hspec]
    cases proposalSpecs.mapM (deriveProposal request evidence fields.1 fields.2) with
    | error error => rfl
    | ok proposals => exact buildPlan_citing request proposals evidence (evidence ++ memory)

end Draft

/-! ## An analysis that returns -/

namespace Outgoing

variable {α β : Type}

/-- What a computation returns or raises after these calls. -/
def outcome (x : Outgoing α) (calls : List FleetCall) : Except FleetError α := (x.run.run calls).1

theorem outcome_bind {x : Outgoing α} {f : α → Outgoing β} {calls : List FleetCall} {b : β} :
    (x >>= f).outcome calls = .ok b ↔
      ∃ a, x.outcome calls = .ok a ∧ (f a).outcome (x.run.run calls).2 = .ok b := by
  unfold outcome
  rw [run_bind]
  rcases x.run.run calls with ⟨outcome, calls'⟩
  cases outcome with
  | ok a =>
    constructor
    · intro h
      exact ⟨a, rfl, h⟩
    · rintro ⟨a', heq, h⟩
      cases heq
      exact h
  | error error =>
    constructor
    · intro h
      cases h
    · rintro ⟨a, heq, -⟩
      cases heq

theorem outcome_ofExcept {result : Except Exn α} {calls : List FleetCall} {a : α} :
    (ofExcept result).outcome calls = .ok a ↔ result = .ok a := by
  cases result with
  | ok a' =>
    constructor
    · intro h
      cases h
      rfl
    · intro h
      cases h
      rfl
  | error error =>
    constructor
    · intro h
      cases h
    · intro h
      cases h

theorem outcome_record {sent calls : List FleetCall} : (record sent).outcome calls = .ok () := rfl

end Outgoing

/-- The guard answers for the summary of a change, and does not block it. -/
def PromptGuard.Passes (guard : PromptGuard) (event : ChangeEvent) : Prop :=
  ∃ screening, guard event.change.summary = .ok screening ∧ screening.blocked = false

/-- What the evidence provider collects for a change. -/
def FleetServices.Collects (services : FleetServices) (event : ChangeEvent)
    (evidence : List EvidenceItem) : Prop :=
  ∃ oldField, fieldFromEvent event true = .ok oldField ∧
    services.evidence event oldField = .ok evidence

theorem prepare_ok_iff {guard : PromptGuard} {services : FleetServices} {event : ChangeEvent}
    {calls : List FleetCall} {memory : List EvidenceItem} :
    (GovernanceService.prepare guard services event).outcome calls = .ok memory ↔
      guard.Passes event ∧ services.memory (memoryQuery event) = .ok memory := by
  unfold GovernanceService.prepare PromptGuard.Passes
  rw [Outgoing.outcome_bind]
  constructor
  · rintro ⟨screening, hscreening, h⟩
    rw [Outgoing.outcome_ofExcept] at hscreening
    cases hblocked : screening.blocked with
    | true =>
      rw [hblocked] at h
      cases h
    | false =>
      rw [hblocked] at h
      exact ⟨⟨screening, hscreening, hblocked⟩, Outgoing.outcome_ofExcept.mp h⟩
  · rintro ⟨⟨screening, hscreening, hblocked⟩, hmemory⟩
    refine ⟨screening, Outgoing.outcome_ofExcept.mpr hscreening, ?_⟩
    rw [hblocked]
    exact Outgoing.outcome_ofExcept.mpr hmemory

theorem collect_ok_iff {services : FleetServices} {event : ChangeEvent} {calls : List FleetCall}
    {evidence : List EvidenceItem} :
    (HttpEvidenceProvider.collect services event).outcome calls = .ok evidence ↔
      services.Collects event evidence := by
  unfold HttpEvidenceProvider.collect FleetServices.Collects
  simp only [Outgoing.outcome_bind, Outgoing.outcome_ofExcept, Outgoing.outcome_record, true_and,
    exists_const]

section Analysis

variable [Uuid5]

/-- An analysis returns the draft plan of its evidence, if every service answers. -/
theorem analysis_ok_iff {guard : PromptGuard} {services : FleetServices}
    {request : FleetAnalysisRequest} {plan : RemediationPlan} :
    (AgentFleet.analysis guard services request).1 = .ok plan ↔
      guard.Passes request.event ∧ ∃ memory evidence,
        services.memory (memoryQuery request.event) = .ok memory ∧
        services.Collects request.event evidence ∧
        services.models request (evidence ++ memory) = .ok () ∧
        draftPlan request (evidence ++ memory) = .ok plan := by
  show (AgentFleet.analyze guard services request).outcome [] = .ok plan ↔ _
  unfold AgentFleet.analyze draftPlan
  simp only [Outgoing.outcome_bind, Outgoing.outcome_ofExcept, Outgoing.outcome_record,
    prepare_ok_iff, collect_ok_iff, Fallible.bind_eq_ok_iff, true_and, exists_const]
  constructor
  · rintro ⟨memory, ⟨hpasses, hmemory⟩, evidence, hcollects, fields, hfields, proposals, hproposals,
      ⟨⟩, hmodels, hplan⟩
    exact ⟨hpasses, memory, evidence, hmemory, hcollects, hmodels, fields, hfields, proposals,
      hproposals, hplan⟩
  · rintro ⟨hpasses, memory, evidence, hmemory, hcollects, hmodels, fields, hfields, proposals,
      hproposals, hplan⟩
    exact ⟨memory, ⟨hpasses, hmemory⟩, evidence, hcollects, fields, hfields, proposals, hproposals,
      ⟨⟩, hmodels, hplan⟩

/-- **The memory is only cited.** Whatever the Memory Bank answers, an analysis returns a plan exactly
if the guard passes, the services answer and the collected evidence alone makes a draft; and the plan
is that draft, with the identifiers of the memory's items among its references. These are at most
three. What is looked up under another kind of identifier, and so the systems and paths of the impact,
is that of the collected evidence. -/
theorem analysis_memory_inert (guard : PromptGuard) (services : FleetServices)
    (request : FleetAnalysisRequest) (answer : ManagedAnswer) :
    (∀ plan, (AgentFleet.analysis guard (services.remembering request.event.tenantId answer)
        request).1 = .ok plan ↔
      guard.Passes request.event ∧ ∃ memory evidence draft,
        retrieveMemories request.event.tenantId answer = .ok memory ∧
        services.Collects request.event evidence ∧
        services.models request (evidence ++ memory) = .ok () ∧
        draftPlan request evidence = .ok draft ∧
        plan = draft.citing ((evidence ++ memory).map (·.evidenceId))) ∧
    ∀ memory, retrieveMemories request.event.tenantId answer = .ok memory →
      memory.length ≤ 3 ∧ (∀ item ∈ memory, item.IsMemory) ∧
      (∀ evidence evidenceId, ¬ "memory-".toList <+: evidenceId.toList →
        byId (evidence ++ memory) evidenceId = byId evidence evidenceId) ∧
      ∀ repr evidence, deriveDependencies repr request (evidence ++ memory) =
        deriveDependencies repr request evidence := by
  constructor
  · intro plan
    rw [analysis_ok_iff]
    refine and_congr_right fun _ => ?_
    constructor
    · rintro ⟨memory, evidence, hmemory, hcollects, hmodels, hplan⟩
      rw [draftPlan_append (retrieveMemories_of_ok hmemory).2] at hplan
      obtain ⟨draft, hdraft, hplan⟩ := Fallible.map_eq_ok_iff.mp hplan
      exact ⟨memory, evidence, draft, hmemory, hcollects, hmodels, hdraft, hplan⟩
    · rintro ⟨memory, evidence, draft, hmemory, hcollects, hmodels, hdraft, rfl⟩
      refine ⟨memory, evidence, hmemory, hcollects, hmodels, ?_⟩
      rw [draftPlan_append (retrieveMemories_of_ok hmemory).2, hdraft]
      rfl
  · intro memory hmemory
    obtain ⟨hlength, hitems⟩ := retrieveMemories_of_ok hmemory
    exact ⟨hlength, hitems, fun _ _ hid => byId_append hitems hid,
      fun repr evidence => deriveDependencies_append hitems repr request evidence⟩

end Analysis

namespace MemoryDemo

open scoped ScreeningDemo

/-- A memory that is named like an item of the platform, and one without a fact. -/
def answer : ManagedAnswer :=
  .answered 200 (some (.dict [("retrievedMemories", .list
    [.dict [("memory", .dict [("name", .str "memories/crm-configuration"), ("fact", .str "f")])],
      .dict [("memory", .dict [("name", .str "memories/2")])]])]))

theorem retrieved : (retrieveMemories "tenant-golden" answer).map (·.map (·.evidenceId)) =
    .ok ["memory-crm-configuration"] := by
  decide +kernel

def services : FleetServices :=
  ⟨fun _ => .ok [], fun _ _ => .ok (ImpactDemo.evidence ImpactDemo.oneWay), fun _ _ => .ok ()⟩

theorem passes : deterministicGuard.Passes ImpactDemo.event :=
  ⟨_, rfl, by decide +kernel⟩

theorem drafted : ∃ draft,
    draftPlan ImpactDemo.request (ImpactDemo.evidence ImpactDemo.oneWay) = .ok draft := by
  have hsome : (draftPlan ImpactDemo.request
      (ImpactDemo.evidence ImpactDemo.oneWay)).toOption.isSome = true := by
    decide +kernel
  cases hdraft : draftPlan ImpactDemo.request (ImpactDemo.evidence ImpactDemo.oneWay) with
  | ok draft => exact ⟨draft, rfl⟩
  | error error =>
    rw [hdraft] at hsome
    cases hsome

end MemoryDemo

open scoped ScreeningDemo in
open MemoryDemo in
/-- The memory is cited in the plan of this analysis. -/
theorem analysis_memory_inert_cited : ∃ plan,
    (AgentFleet.analysis deterministicGuard (services.remembering "tenant-golden" answer)
      ImpactDemo.request).1 = .ok plan ∧ "memory-crm-configuration" ∈ plan.evidenceRefs := by
  obtain ⟨memory, hmemory, hids⟩ := Fallible.map_eq_ok_iff.mp retrieved
  obtain ⟨draft, hdraft⟩ := drafted
  refine ⟨_, ((analysis_memory_inert deterministicGuard services ImpactDemo.request answer).1 _).mpr
    ⟨passes, memory, _, draft, hmemory, ⟨"1.4.0", by decide +kernel, rfl⟩, rfl, hdraft, rfl⟩, ?_⟩
  show _ ∈ (_ ++ memory).map (·.evidenceId)
  rw [List.map_append, ← hids]
  exact List.mem_append_right _ List.mem_cons_self

end ChangeOps
