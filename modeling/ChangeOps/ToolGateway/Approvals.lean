import ChangeOps.Contracts.Documents
import ChangeOps.Core.TransitionLaw
import ChangeOps.ToolGateway.Repository

/-!
# ChangeOps.ToolGateway — approvals are decided once

What sequences of calls do to an approval request: the first decision is final
(`finalDecisions`), and creating the same request again returns the stored one exactly as long
as it is pending (`creation_repeats_iff`).
-/

namespace ChangeOps

/-! ## Python's `==` is reflexive -/

theorem Json.pyEq_self (document : Json) : document.pyEq document = true := by
  induction document using Json.induct with
  | null => rfl
  | bool b => simp [Json.pyEq]
  | int n => simp [Json.pyEq]
  | str s => simp [Json.pyEq]
  | arr items ih =>
    have hitems : ∀ items : List Json, (∀ item ∈ items, item.pyEq item = true) →
        Json.pyEqItems items items = true := by
      intro items
      induction items with
      | nil => exact fun _ => rfl
      | cons item rest ih =>
        intro h
        rw [Json.pyEqItems, h item List.mem_cons_self,
          ih fun item hmem => h item (List.mem_cons_of_mem _ hmem)]
        rfl
    exact hitems items ih
  | obj fields ih =>
    have hfields : ∀ fields : List (String × Json), (∀ field ∈ fields, field.2.pyEq field.2 = true) →
        Json.pyEqFields fields fields = true := by
      intro fields
      induction fields with
      | nil => exact fun _ => rfl
      | cons field rest ih =>
        intro h
        rw [Json.pyEqFields, h field List.mem_cons_self,
          ih fun field hmem => h field (List.mem_cons_of_mem _ hmem)]
        simp
    exact hfields fields ih

theorem RemediationStep.pyEq_self (step : RemediationStep) : step.pyEq step = true := by
  simp [pyEq, JsonObject.pyEq, Json.pyEq_self]

theorem RemediationPlan.pyEq_self (plan : RemediationPlan) : plan.pyEq plan = true := by
  have hsteps : ∀ steps : List RemediationStep, stepsPyEq steps steps = true := by
    intro steps
    induction steps with
    | nil => rfl
    | cons step rest ih => rw [stepsPyEq, step.pyEq_self, ih]; rfl
  simp [pyEq, hsteps]

/-! ## The first decision -/

/-- What a call needs to make the first decision. -/
structure FirstDecision (current : ApprovalRequestRecord) (call : DecideCall) : Prop where
  pending : current.status = .PENDING
  version : current.version = call.expectedVersion
  unexpired : call.decidedAt < current.expiresAt
  other_decider : current.requestedBy ≠ call.decidedBy
  decides : call.target ≠ .PENDING
  not_before : current.requestedAt ≤ call.decidedAt
  decider_text : ∃ text, nonEmptyStr call.decidedBy = .ok text
  comment_text : ∃ text, nonEmptyStr call.comment = .ok text

/-- The call repeats the stored decision. -/
structure ExactRetry (current : ApprovalRequestRecord) (call : DecideCall) : Prop where
  decided : current.status ≠ .PENDING
  target : current.status = call.target
  version : current.version = call.expectedVersion + 1
  decider : current.decidedBy = some call.decidedBy
  roles : current.decidedByRoles = call.decidedByRoles
  comment : current.comment = some call.comment

/-- The fields of a request after its first decision: the texts are stripped. -/
def ApprovalRequestRecord.decidedFields (current : ApprovalRequestRecord) (call : DecideCall) :
    ApprovalRequestFields :=
  { current.decidedDocument call with
    decidedBy := some (stripWhitespace call.decidedBy)
    comment := some (stripWhitespace call.comment) }

theorem exactRetry_iff {current : ApprovalRequestRecord} {call : DecideCall}
    (h : current.status ≠ .PENDING) :
    ExactRetry current call ↔ sameApprovalDecision current call = true := by
  unfold sameApprovalDecision
  simp only [Bool.and_eq_true, decide_eq_true_eq]
  constructor
  · rintro ⟨-, htarget, hversion, hdecider, hroles, hcomment⟩
    exact ⟨⟨⟨⟨htarget, hversion⟩, hdecider⟩, hroles⟩, hcomment⟩
  · rintro ⟨⟨⟨⟨htarget, hversion⟩, hdecider⟩, hroles⟩, hcomment⟩
    exact ⟨h, htarget, hversion, hdecider, hroles, hcomment⟩

theorem nonEmptyStrOrNone_some {text : String} {checked : Option String} :
    nonEmptyStrOrNone (some text) = .ok checked ↔
      ∃ stripped, nonEmptyStr text = .ok stripped ∧ checked = some stripped := by
  show (nonEmptyStr text).map some = .ok checked ↔ _
  cases nonEmptyStr text with
  | error e => simp [Except.map]
  | ok stripped => simp [Except.map, eq_comm]

/-- The lifecycle accepts a decision that decides and does not precede its request. -/
theorem lifecycleError_decidedFields {current : ApprovalRequestRecord} {call : DecideCall} :
    (current.decidedFields call).lifecycleError = none ↔
      call.target ≠ .PENDING ∧ current.requestedAt ≤ call.decidedAt := by
  have hexpires : ¬ current.expiresAt ≤ current.requestedAt := by
    intro hle
    have hlife := current.lifecycle
    rw [ApprovalRequestFields.lifecycleError, if_pos hle] at hlife
    cases hlife
  unfold ApprovalRequestFields.lifecycleError ApprovalRequestRecord.decidedFields
    ApprovalRequestRecord.decidedDocument
  by_cases htarget : call.target = .PENDING
  · simp [hexpires, htarget]
  · simp [hexpires, htarget]

theorem modelValidate_decidedDocument {current updated : ApprovalRequestRecord} {call : DecideCall} :
    (current.decidedDocument call).modelValidate = .ok updated ↔
      (∃ text, nonEmptyStr call.decidedBy = .ok text) ∧
        (∃ text, nonEmptyStr call.comment = .ok text) ∧
        updated.toApprovalRequestFields = current.decidedFields call := by
  rw [ApprovalRequestFields.modelValidate_eq_ok]
  constructor
  · rintro ⟨decidedBy, comment, hby, hcomment, heq⟩
    obtain ⟨text, htext, rfl⟩ := nonEmptyStrOrNone_some.mp hby
    obtain ⟨text', htext', rfl⟩ := nonEmptyStrOrNone_some.mp hcomment
    refine ⟨⟨text, htext⟩, ⟨text', htext'⟩, ?_⟩
    rw [heq, (nonEmptyStr_of_ok htext).1, (nonEmptyStr_of_ok htext').1]
    rfl
  · rintro ⟨⟨text, htext⟩, ⟨text', htext'⟩, heq⟩
    refine ⟨some text, some text', nonEmptyStrOrNone_some.mpr ⟨text, htext, rfl⟩,
      nonEmptyStrOrNone_some.mpr ⟨text', htext', rfl⟩, ?_⟩
    rw [heq, (nonEmptyStr_of_ok htext).1, (nonEmptyStr_of_ok htext').1]
    rfl

namespace GovernanceRepository

/-- The first decision is stored. -/
theorem decideApproval_first {repo : GovernanceRepository} {call : DecideCall}
    {current : ApprovalRequestRecord}
    (hget : repo.approvals.get? (call.tenantId, call.approvalId) = some current)
    (hfirst : FirstDecision current call) :
    ∃ updated : ApprovalRequestRecord,
      updated.toApprovalRequestFields = current.decidedFields call ∧
      repo.decideApproval call = (.ok updated, { repo with
        approvals := repo.approvals.set (call.tenantId, call.approvalId) updated }) := by
  have hlife := lifecycleError_decidedFields.mpr ⟨hfirst.decides, hfirst.not_before⟩
  obtain ⟨text, htext⟩ := hfirst.decider_text
  obtain ⟨text', htext'⟩ := hfirst.comment_text
  have hby : nonEmptyStrOrNone (some (stripWhitespace call.decidedBy)) =
      .ok (some (stripWhitespace call.decidedBy)) := by
    rw [← (nonEmptyStr_of_ok htext).1]
    exact nonEmptyStrOrNone_some.mpr ⟨text, (nonEmptyStr_of_ok htext).2, rfl⟩
  have hcomment : nonEmptyStrOrNone (some (stripWhitespace call.comment)) =
      .ok (some (stripWhitespace call.comment)) := by
    rw [← (nonEmptyStr_of_ok htext').1]
    exact nonEmptyStrOrNone_some.mpr ⟨text', (nonEmptyStr_of_ok htext').2, rfl⟩
  let updated : ApprovalRequestRecord := ⟨current.decidedFields call, hby, hcomment, hlife⟩
  refine ⟨updated, rfl, ?_⟩
  have hvalid : (current.decidedDocument call).modelValidate = .ok updated :=
    modelValidate_decidedDocument.mpr ⟨⟨text, htext⟩, ⟨text', htext'⟩, rfl⟩
  unfold decideApproval getApprovalRequest
  rw [hget]
  simp only [hfirst.pending, ne_eq, not_true_eq_false, if_false, hfirst.version,
    Nat.not_le_of_lt hfirst.unexpired, hfirst.other_decider, hvalid]

/-- An exact retry returns the stored record and changes nothing. -/
theorem decideApproval_retry {repo : GovernanceRepository} {call : DecideCall}
    {current : ApprovalRequestRecord}
    (hget : repo.approvals.get? (call.tenantId, call.approvalId) = some current)
    (hretry : ExactRetry current call) : repo.decideApproval call = (.ok current, repo) := by
  unfold decideApproval getApprovalRequest
  rw [hget]
  simp only [(exactRetry_iff hretry.decided).mp hretry, if_true, if_pos hretry.decided]

/-- What a successful call was. -/
theorem decideApproval_of_ok {repo : GovernanceRepository} {call : DecideCall}
    {record : ApprovalRequestRecord} (h : (repo.decideApproval call).1 = .ok record) :
    ∃ current, repo.approvals.get? (call.tenantId, call.approvalId) = some current ∧
      (FirstDecision current call ∨ ExactRetry current call) := by
  rcases decideApproval_cases call repo with ⟨e, heq⟩ | ⟨current, hget, hdecided, hsame, heq⟩ |
    ⟨current, updated, hget, hpending, hversion, hunexpired, hother, hvalid, heq⟩
  · rw [heq] at h
    cases h
  · exact ⟨current, hget, Or.inr ((exactRetry_iff hdecided).mpr hsame)⟩
  · obtain ⟨htext, htext', hfields⟩ := modelValidate_decidedDocument.mp hvalid
    have hlife := updated.lifecycle
    rw [hfields] at hlife
    obtain ⟨hdecides, hnot⟩ := lifecycleError_decidedFields.mp hlife
    exact ⟨current, hget, Or.inl
      ⟨hpending, hversion, hunexpired, hother, hdecides, hnot, htext, htext'⟩⟩

theorem decideApproval_of_error {repo : GovernanceRepository} {call : DecideCall} {e : GatewayExn}
    (h : (repo.decideApproval call).1 = .error e) : (repo.decideApproval call).2 = repo := by
  rcases decideApproval_cases call repo with ⟨e, heq⟩ | ⟨current, -, -, -, heq⟩ |
    ⟨current, updated, -, -, -, -, -, -, heq⟩
  · rw [heq]
  · rw [heq]
  · rw [heq] at h
    cases h

/-- A decided request stays as it is: no call writes its key again. -/
theorem decided_stays [Sha256] {repo : GovernanceRepository} {key : String × String}
    {record : ApprovalRequestRecord} (hget : repo.approvals.get? key = some record)
    (hdecided : record.status ≠ .PENDING) (call : GovernanceCall) :
    (call.apply repo).approvals.get? key = some record := by
  cases call with
  | createApprovalRequest candidate plan =>
    show (repo.createApprovalRequest candidate plan).2.approvals.get? key = some record
    rcases createApprovalRequest_cases candidate plan repo with
      ⟨e, heq⟩ | ⟨_, _, -, -, -, -, -, -, heq⟩ | ⟨tenants, -, -, hnone, heq⟩
    · rw [heq]
      exact hget
    · rw [heq]
      exact hget
    · have hne : key ≠ (candidate.tenantId, candidate.approvalId) := by
        intro hkey
        rw [← hkey, hget] at hnone
        cases hnone
      rw [heq, Dict.get?_set_ne _ _ hne]
      exact hget
  | decideApproval call =>
    show (repo.decideApproval call).2.approvals.get? key = some record
    rcases decideApproval_cases call repo with ⟨e, heq⟩ | ⟨_, -, -, -, heq⟩ |
      ⟨current, updated, hcurrent, hpending, -, -, -, -, heq⟩
    · rw [heq]
      exact hget
    · rw [heq]
      exact hget
    · have hne : key ≠ (call.tenantId, call.approvalId) := by
        intro hkey
        rw [← hkey, hget] at hcurrent
        cases hcurrent
        exact hdecided hpending
      rw [heq, Dict.get?_set_ne _ _ hne]
      exact hget
  | reserveExecution call =>
    show (repo.reserveExecution call).2.approvals.get? key = some record
    rw [(governed_reserveExecution call repo).2]
    exact hget
  | reportExecution tenantId changeId executionId report =>
    show (repo.reportExecution tenantId changeId executionId report).2.approvals.get? key = _
    rw [(governed_reportExecution _ _ _ _ repo).2]
    exact hget
  | recordAudit event =>
    show (repo.recordAudit event).2.approvals.get? key = _
    rw [(governed_recordAudit event repo).2]
    exact hget

theorem decided_stays_after [Sha256] {repo : GovernanceRepository} {key : String × String}
    {record : ApprovalRequestRecord} (hget : repo.approvals.get? key = some record)
    (hdecided : record.status ≠ .PENDING) (calls : List GovernanceCall) :
    (repo.after calls).approvals.get? key = some record := by
  induction calls generalizing repo with
  | nil => exact hget
  | cons call rest ih => exact ih (decided_stays hget hdecided call)

end GovernanceRepository

/-- How approval requests are decided in a store, and in every store after it. -/
structure FinalDecisions [Sha256] (repo : GovernanceRepository) : Prop where
  /-- A call succeeds exactly when it makes the first decision or repeats it. -/
  succeeds_iff : ∀ call, (∃ record, (repo.decideApproval call).1 = .ok record) ↔
    ∃ current, repo.approvals.get? (call.tenantId, call.approvalId) = some current ∧
      (FirstDecision current call ∨ ExactRetry current call)
  /-- The first decision is stored, and says what its exact retries are. -/
  decides : ∀ {call current}, repo.approvals.get? (call.tenantId, call.approvalId) = some current →
    FirstDecision current call → ∃ updated : ApprovalRequestRecord,
      updated.toApprovalRequestFields = current.decidedFields call ∧
      repo.decideApproval call = (.ok updated, { repo with
        approvals := repo.approvals.set (call.tenantId, call.approvalId) updated }) ∧
      ∀ retry, ExactRetry updated retry ↔ retry.target = call.target ∧
        retry.expectedVersion = call.expectedVersion ∧
        retry.decidedBy = stripWhitespace call.decidedBy ∧
        retry.decidedByRoles = call.decidedByRoles ∧ retry.comment = stripWhitespace call.comment
  repeats : ∀ {call current}, repo.approvals.get? (call.tenantId, call.approvalId) = some current →
    ExactRetry current call → repo.decideApproval call = (.ok current, repo)
  refuses : ∀ {call e}, (repo.decideApproval call).1 = .error e → (repo.decideApproval call).2 = repo
  /-- A decided request never changes again. -/
  final : ∀ {key record}, repo.approvals.get? key = some record → record.status ≠ .PENDING →
    ∀ calls, (repo.after calls).approvals.get? key = some record

theorem exactRetry_decided {current updated : ApprovalRequestRecord} {call : DecideCall}
    (hfirst : FirstDecision current call)
    (hfields : updated.toApprovalRequestFields = current.decidedFields call) (retry : DecideCall) :
    ExactRetry updated retry ↔ retry.target = call.target ∧
      retry.expectedVersion = call.expectedVersion ∧
      retry.decidedBy = stripWhitespace call.decidedBy ∧
      retry.decidedByRoles = call.decidedByRoles ∧ retry.comment = stripWhitespace call.comment := by
  have hdecided : updated.status ≠ .PENDING := by
    rw [hfields]
    exact hfirst.decides
  rw [exactRetry_iff hdecided, sameApprovalDecision, hfields]
  simp only [ApprovalRequestRecord.decidedFields, ApprovalRequestRecord.decidedDocument,
    Bool.and_eq_true, decide_eq_true_eq, Option.some.injEq, hfirst.version, and_assoc]
  constructor
  · rintro ⟨htarget, hversion, hdecider, hroles, hcomment⟩
    exact ⟨htarget.symm, by omega, hdecider.symm, hroles.symm, hcomment.symm⟩
  · rintro ⟨htarget, hversion, hdecider, hroles, hcomment⟩
    exact ⟨htarget.symm, by omega, hdecider.symm, hroles.symm, hcomment.symm⟩

open GovernanceRepository in
/-- After every sequence of calls: a decision is the first one for its request or repeats it, and
what has been decided is final. -/
theorem finalDecisions [Sha256] (calls : List GovernanceCall) :
    FinalDecisions (GovernanceRepository.empty.after calls) := by
  generalize GovernanceRepository.empty.after calls = repo
  constructor
  case succeeds_iff =>
    intro call
    constructor
    · rintro ⟨record, hok⟩
      exact decideApproval_of_ok hok
    · rintro ⟨current, hget, hfirst | hretry⟩
      · obtain ⟨updated, -, heq⟩ := decideApproval_first hget hfirst
        exact ⟨updated, by rw [heq]⟩
      · exact ⟨current, by rw [decideApproval_retry hget hretry]⟩
  case decides =>
    intro call current hget hfirst
    obtain ⟨updated, hfields, heq⟩ := decideApproval_first hget hfirst
    exact ⟨updated, hfields, heq, exactRetry_decided hfirst hfields⟩
  case repeats =>
    intro call current hget hretry
    exact decideApproval_retry hget hretry
  case refuses =>
    intro call e herror
    exact decideApproval_of_error herror
  case final =>
    intro key record hget hdecided later
    exact decided_stays_after hget hdecided later

/-! ## Creating the same request again -/

/-- The key of the request that a body asks for. -/
def ApprovalCreateRequest.key (body : ApprovalCreateRequest) : String × String :=
  (body.plan.tenantId, body.approvalId)

section Creation

variable [Sha256] {body : ApprovalCreateRequest} {requestedBy : String} {createdAt : Time}
  {hexpires : createdAt < body.expiresAt}

/-- The store after a request has been accepted: it has the plan, and the request, which has its
content while it is pending. -/
structure Requested (body : ApprovalCreateRequest) (requestedBy : String)
    (repo : GovernanceRepository) : Prop where
  plan : repo.plans.get? (body.plan.tenantId, body.plan.changeId, body.plan.planId) = some body.plan
  request : ∃ stored, repo.approvals.get? body.key = some stored ∧
    (stored.status = .PENDING → ∀ createdAt hexpires,
      sameApprovalRequest stored (body.record requestedBy createdAt hexpires) = true)

/-- The plans of a run: that of the request, the stored ones, and those of the later calls. -/
def runPlans (body : ApprovalCreateRequest) (repo : GovernanceRepository)
    (calls : List GovernanceCall) : Set RemediationPlan :=
  {plan | plan = body.plan ∨ (∃ key, repo.plans.get? key = some plan) ∨
    ∃ candidate, .createApprovalRequest candidate plan ∈ calls}

open GovernanceRepository

theorem requested_of_accepted {repo repo' : GovernanceRepository} {returned : ApprovalRequestRecord}
    {calls : List GovernanceCall} (hinj : Set.InjOn calculatePlanHash (runPlans body repo calls))
    (h : repo.createApprovalRequest (body.record requestedBy createdAt hexpires) body.plan =
      (.ok returned, repo')) : Requested body requestedBy repo' := by
  rcases createApprovalRequest_cases (body.record requestedBy createdAt hexpires) body.plan repo with
    ⟨e, heq⟩ | ⟨existingPlan, existing, hhash, hplan, hhash', -, hget, hsame, heq⟩ |
    ⟨tenants, hhash, -, -, heq⟩
  · rw [heq] at h
    cases h
  · rw [heq] at h
    cases h
    -- the stored plan has the same hash, so it is the same plan
    have hsamePlan : existingPlan = body.plan :=
      hinj (.inr (.inl ⟨_, hplan⟩)) (.inl rfl) (hhash'.trans hhash.symm)
    rw [hsamePlan] at hplan
    exact ⟨hplan, returned, hget, fun _ _ _ => hsame⟩
  · rw [heq] at h
    cases h
    refine ⟨Dict.get?_set_self _ _ _, _, Dict.get?_set_self _ _ _, fun _ _ _ => ?_⟩
    exact decide_eq_true rfl

/-- An empty store accepts every request. -/
theorem createApprovalRequest_empty (body : ApprovalCreateRequest) (requestedBy : String)
    (createdAt : Time) (hexpires : createdAt < body.expiresAt) :
    ∃ repo, GovernanceRepository.empty.createApprovalRequest
        (body.record requestedBy createdAt hexpires) body.plan =
          (.ok (body.record requestedBy createdAt hexpires), repo) ∧
      repo.approvals.get? body.key = some (body.record requestedBy createdAt hexpires) := by
  have hhash : calculatePlanHash body.plan =
      (body.record requestedBy createdAt hexpires).planHash := rfl
  refine ⟨_, Prod.ext ?_ rfl, ?_⟩
  · simp [createApprovalRequest, ← hhash, GovernanceRepository.empty]
  · simp only [createApprovalRequest, ← hhash, GovernanceRepository.empty, Dict.get?_empty, ne_eq,
      not_true_eq_false, if_false, Option.any_none, Bool.false_eq_true]
    exact Dict.get?_set_self _ _ _

/-- Every call keeps an accepted request. -/
theorem Requested.apply {plans : Set RemediationPlan} (hinj : Set.InjOn calculatePlanHash plans)
    {repo : GovernanceRepository} (h : Requested body requestedBy repo) (hbody : body.plan ∈ plans)
    (call : GovernanceCall)
    (hcall : ∀ candidate plan, call = .createApprovalRequest candidate plan → plan ∈ plans) :
    Requested body requestedBy (call.apply repo) := by
  obtain ⟨hplan, stored, hget, hsame⟩ := h
  cases call with
  | createApprovalRequest candidate plan =>
    show Requested body requestedBy (repo.createApprovalRequest candidate plan).2
    rcases createApprovalRequest_cases candidate plan repo with
      ⟨e, heq⟩ | ⟨_, _, -, -, -, -, -, -, heq⟩ | ⟨tenants, hhash, hexisting, hnone, heq⟩
    · rw [heq]
      exact ⟨hplan, stored, hget, hsame⟩
    · rw [heq]
      exact ⟨hplan, stored, hget, hsame⟩
    · rw [heq]
      refine ⟨?_, stored, ?_, hsame⟩
      · dsimp only
        rw [Dict.get?_set]
        split_ifs with hkey
        · -- another request for this plan id has a plan with the same hash
          rw [hkey] at hplan
          rw [hinj (hcall candidate plan rfl) hbody (hhash.trans (hexisting _ hplan).symm)]
        · exact hplan
      · dsimp only
        rw [Dict.get?_set_ne, hget]
        intro hkey
        rw [← hkey, hget] at hnone
        cases hnone
  | decideApproval call =>
    show Requested body requestedBy (repo.decideApproval call).2
    rcases decideApproval_cases call repo with ⟨e, heq⟩ | ⟨_, -, -, -, heq⟩ |
      ⟨current, updated, hcurrent, -, -, -, -, hvalid, heq⟩
    · rw [heq]
      exact ⟨hplan, stored, hget, hsame⟩
    · rw [heq]
      exact ⟨hplan, stored, hget, hsame⟩
    · rw [heq]
      by_cases hkey : body.key = (call.tenantId, call.approvalId)
      · -- a decision never leaves a request pending
        refine ⟨hplan, updated, by dsimp only; rw [hkey, Dict.get?_set_self], fun hpending => ?_⟩
        obtain ⟨-, -, hfields⟩ := modelValidate_decidedDocument.mp hvalid
        have hlife := updated.lifecycle
        rw [hfields] at hlife hpending
        exact absurd hpending (lifecycleError_decidedFields.mp hlife).1
      · refine ⟨hplan, stored, ?_, hsame⟩
        dsimp only
        rw [Dict.get?_set_ne _ _ hkey, hget]
  | reserveExecution call =>
    obtain ⟨hplans, happrovals⟩ := governed_reserveExecution call repo
    show Requested body requestedBy (repo.reserveExecution call).2
    exact ⟨by rw [hplans, hplan], stored, by rw [happrovals, hget], hsame⟩
  | reportExecution tenantId changeId executionId report =>
    obtain ⟨hplans, happrovals⟩ :=
      governed_reportExecution tenantId changeId executionId report repo
    show Requested body requestedBy (repo.reportExecution tenantId changeId executionId report).2
    exact ⟨by rw [hplans, hplan], stored, by rw [happrovals, hget], hsame⟩
  | recordAudit event =>
    obtain ⟨hplans, happrovals⟩ := governed_recordAudit event repo
    show Requested body requestedBy (repo.recordAudit event).2
    exact ⟨by rw [hplans, hplan], stored, by rw [happrovals, hget], hsame⟩

theorem Requested.after {plans : Set RemediationPlan} (hinj : Set.InjOn calculatePlanHash plans)
    {repo : GovernanceRepository} (h : Requested body requestedBy repo) (hbody : body.plan ∈ plans)
    {calls : List GovernanceCall}
    (hcalls : ∀ candidate plan, .createApprovalRequest candidate plan ∈ calls → plan ∈ plans) :
    Requested body requestedBy (repo.after calls) := by
  induction calls generalizing repo with
  | nil => exact h
  | cons call rest ih =>
    refine ih (Requested.apply hinj h hbody call ?_) fun candidate plan hmem =>
      hcalls candidate plan (List.mem_cons_of_mem _ hmem)
    rintro candidate plan rfl
    exact hcalls candidate plan List.mem_cons_self

/-- An accepted request is kept by the calls that come later. -/
theorem requested_after {repo repo' : GovernanceRepository} {returned : ApprovalRequestRecord}
    {calls : List GovernanceCall} (hinj : Set.InjOn calculatePlanHash (runPlans body repo calls))
    (haccepted : repo.createApprovalRequest (body.record requestedBy createdAt hexpires) body.plan =
      (.ok returned, repo')) : Requested body requestedBy (repo'.after calls) :=
  (requested_of_accepted hinj haccepted).after hinj (.inl rfl)
    fun candidate _ hmem => .inr (.inr ⟨candidate, hmem⟩)

/-- Creating an accepted request again returns the stored one if and only if that is pending. -/
theorem Requested.create_iff {repo : GovernanceRepository} (h : Requested body requestedBy repo) :
    (∃ stored, repo.approvals.get? body.key = some stored ∧
      repo.createApprovalRequest (body.record requestedBy createdAt hexpires) body.plan =
        (.ok stored, repo)) ↔
      ∃ stored, repo.approvals.get? body.key = some stored ∧ stored.status = .PENDING := by
  obtain ⟨hplan, stored, hget, hsame⟩ := h
  constructor
  · rintro ⟨stored', hget', heq⟩
    rcases createApprovalRequest_cases (body.record requestedBy createdAt hexpires) body.plan repo with
      ⟨e, heq'⟩ | ⟨_, existing, -, -, -, -, hexisting, hsame', -⟩ | ⟨_, -, -, hnone, -⟩
    · rw [heq'] at heq
      cases heq
    · refine ⟨existing, hexisting, ?_⟩
      have hfields := of_decide_eq_true hsame'
      exact congrArg ApprovalRequestFields.status hfields
    · rw [show ((body.record requestedBy createdAt hexpires).tenantId,
        (body.record requestedBy createdAt hexpires).approvalId) = body.key from rfl, hget] at hnone
      cases hnone
  · rintro ⟨stored', hget', hpending⟩
    rw [hget] at hget'
    cases hget'
    refine ⟨stored, hget, ?_⟩
    have hkey : repo.approvals.get? ((body.record requestedBy createdAt hexpires).tenantId,
        (body.record requestedBy createdAt hexpires).approvalId) = some stored := hget
    have hhash : calculatePlanHash body.plan =
        (body.record requestedBy createdAt hexpires).planHash := rfl
    unfold createApprovalRequest
    simp only [hplan, hkey, ← hhash, hsame hpending, Option.any_some, RemediationPlan.pyEq_self,
      ne_eq, not_true_eq_false, decide_false, Bool.false_eq_true, if_false, Bool.and_self, if_true]

/-- For every accepted request and every later sequence of calls: making the same request again
returns the stored record and changes nothing if and only if that record is still pending. No two
plans of the run have one hash. -/
theorem creation_repeats_iff {repo repo' : GovernanceRepository} {returned : ApprovalRequestRecord}
    (calls : List GovernanceCall) (hinj : Set.InjOn calculatePlanHash (runPlans body repo calls))
    (haccepted : repo.createApprovalRequest (body.record requestedBy createdAt hexpires) body.plan =
      (.ok returned, repo'))
    (again : Time) (hagain : again < body.expiresAt) :
    (∃ stored, (repo'.after calls).approvals.get? body.key = some stored ∧
      (repo'.after calls).createApprovalRequest (body.record requestedBy again hagain) body.plan =
        (.ok stored, repo'.after calls)) ↔
      ∃ stored, (repo'.after calls).approvals.get? body.key = some stored ∧
        stored.status = .PENDING :=
  (requested_after hinj haccepted).create_iff

end Creation

/-! ## A request, its retry and its decision -/

namespace Demo

theorem renaming_sorted : (Json.obj
    [("new_field", .str "customer_id"), ("old_field", .str "cust_id")]).isSorted = true := by decide

def gatewayStep : RemediationStep where
  stepId := "step_crm"
  order := 1
  agentId := "crm"
  toolName := "crm.update_field_mapping"
  resource := "crm://tenant/tenant_demo/configuration/customer"
  arguments := ⟨_, renaming_sorted⟩
  dependsOn := []
  riskLevel := .HIGH
  requiresApproval := true
  idempotencyKey := "key_crm"

def gatewayPlan : RemediationPlan where
  planId := "plan_001"
  tenantId := "tenant_demo"
  changeId := "chg_001"
  version := 1
  riskLevel := .HIGH
  summary := "Rename the customer field"
  preconditions := []
  steps := [gatewayStep]
  verificationSteps := []
  rollbackSteps := []
  evidenceRefs := []
  createdAt := 0
  version_pos := one_le_one
  steps_ne_nil := List.cons_ne_nil _ _
  graph := by decide

def approvalBody : ApprovalCreateRequest where
  approvalId := "approval_001"
  plan := gatewayPlan
  environment := .SANDBOX
  scope := ["step_crm"]
  expiresAt := 1000
  scope_ne_nil := List.cons_ne_nil _ _
  scope_subset := by decide
  scope_nodup := by decide

theorem requestedAt_lt : 10 < approvalBody.expiresAt := by decide

def approve (decidedAt : Time) : DecideCall :=
  ⟨"tenant_demo", "approval_001", .APPROVED, 1, "user_approver", [.APPROVER], "Approved.", decidedAt⟩

end Demo

open scoped Demo

open GovernanceRepository

/-- The only plan of a run that starts empty and creates no other request. -/
theorem injOn_runPlans_demo {calls : List GovernanceCall}
    (hcalls : ∀ candidate plan, .createApprovalRequest candidate plan ∉ calls) :
    Set.InjOn calculatePlanHash (runPlans Demo.approvalBody .empty calls) := by
  have honly : ∀ plan ∈ runPlans Demo.approvalBody .empty calls, plan = Demo.gatewayPlan := by
    rintro plan (rfl | ⟨key, hget⟩ | ⟨candidate, hmem⟩)
    · rfl
    · cases hget
    · exact absurd hmem (hcalls candidate plan)
  intro plan hplan plan' hplan' _
  rw [honly plan hplan, honly plan' hplan']

/-- The retry of a request that nobody has decided. -/
theorem creation_repeats_iff_demo :
    ∃ repo stored, GovernanceRepository.empty.createApprovalRequest
        (Demo.approvalBody.record "workflow-coordinator" 10 Demo.requestedAt_lt)
        Demo.approvalBody.plan = (.ok stored, repo) ∧
      (repo.after []).createApprovalRequest
        (Demo.approvalBody.record "workflow-coordinator" 10 Demo.requestedAt_lt)
        Demo.approvalBody.plan = (.ok stored, repo.after []) := by
  obtain ⟨repo, haccepted, hstored⟩ := createApprovalRequest_empty Demo.approvalBody
    "workflow-coordinator" 10 Demo.requestedAt_lt
  have hinj : Set.InjOn calculatePlanHash (runPlans Demo.approvalBody .empty []) :=
    injOn_runPlans_demo fun _ _ => List.not_mem_nil
  obtain ⟨stored, hget, heq⟩ := (creation_repeats_iff [] hinj haccepted 10
    Demo.requestedAt_lt).mpr ⟨_, hstored, rfl⟩
  rw [after_nil, hstored] at hget
  cases hget
  exact ⟨repo, _, haccepted, heq⟩

theorem nonEmptyStr_demo : (∃ text, nonEmptyStr "user_approver" = .ok text) ∧
    ∃ text, nonEmptyStr "Approved." = .ok text := by
  unfold nonEmptyStr stripWhitespace
  exact ⟨⟨"user_approver", by decide⟩, ⟨"Approved.", by decide⟩⟩

theorem firstDecision_demo : FirstDecision
    (Demo.approvalBody.record "workflow-coordinator" 10 Demo.requestedAt_lt) (Demo.approve 20) :=
  ⟨rfl, rfl, by decide, by decide, by decide, by decide, nonEmptyStr_demo.1, nonEmptyStr_demo.2⟩

/-- Once the request has been approved, its exact retry is refused. -/
theorem not_creation_repeats_approved :
    ¬ ∀ [Sha256] (body : ApprovalCreateRequest) (requestedBy : String) (createdAt again : Time)
      (hexpires : createdAt < body.expiresAt) (hagain : again < body.expiresAt)
      (repo repo' : GovernanceRepository) (returned : ApprovalRequestRecord)
      (calls : List GovernanceCall), Set.InjOn calculatePlanHash (runPlans body repo calls) →
      repo.createApprovalRequest (body.record requestedBy createdAt hexpires) body.plan =
        (.ok returned, repo') →
      ∃ stored, (repo'.after calls).approvals.get? body.key = some stored ∧
        (repo'.after calls).createApprovalRequest (body.record requestedBy again hagain) body.plan =
          (.ok stored, repo'.after calls) := by
  intro h
  have hinj : Set.InjOn calculatePlanHash
      (runPlans Demo.approvalBody .empty [.decideApproval (Demo.approve 20)]) :=
    injOn_runPlans_demo fun _ _ hmem => by cases List.mem_singleton.mp hmem
  obtain ⟨repo, haccepted, hstored⟩ := createApprovalRequest_empty Demo.approvalBody
    "workflow-coordinator" 10 Demo.requestedAt_lt
  have hagain := h Demo.approvalBody "workflow-coordinator" 10 10 Demo.requestedAt_lt
    Demo.requestedAt_lt .empty repo _ [.decideApproval (Demo.approve 20)] hinj haccepted
  have hrequested := requested_after hinj haccepted
  obtain ⟨stored, hget, hpending⟩ := hrequested.create_iff.mp hagain
  have hkey : Demo.approvalBody.key =
      ((Demo.approve 20).tenantId, (Demo.approve 20).approvalId) := rfl
  rw [hkey] at hstored hget
  obtain ⟨updated, hfields, heq⟩ := decideApproval_first hstored firstDecision_demo
  rw [after_cons, after_nil, GovernanceCall.apply, heq, Dict.get?_set_self] at hget
  cases hget
  rw [hfields] at hpending
  cases hpending

/-- A call with the right version, an unexpired request and another decider is refused when its
time is before the request's. -/
theorem not_decides_before_request :
    ¬ ∀ [Sha256] (calls : List GovernanceCall) (call : DecideCall) (current : ApprovalRequestRecord),
      (GovernanceRepository.empty.after calls).approvals.get? (call.tenantId, call.approvalId) =
        some current → current.status = .PENDING → current.version = call.expectedVersion →
      call.decidedAt < current.expiresAt → current.requestedBy ≠ call.decidedBy →
      ∃ record, ((GovernanceRepository.empty.after calls).decideApproval call).1 = .ok record := by
  intro h
  obtain ⟨repo, haccepted, hstored⟩ := createApprovalRequest_empty Demo.approvalBody
    "workflow-coordinator" 10 Demo.requestedAt_lt
  have hrefused := h [.createApprovalRequest
    (Demo.approvalBody.record "workflow-coordinator" 10 Demo.requestedAt_lt)
    Demo.approvalBody.plan] (Demo.approve 5)
    (Demo.approvalBody.record "workflow-coordinator" 10 Demo.requestedAt_lt)
  rw [after_cons, after_nil, GovernanceCall.apply, haccepted] at hrefused
  have hkey : Demo.approvalBody.key =
      ((Demo.approve 5).tenantId, (Demo.approve 5).approvalId) := rfl
  rw [hkey] at hstored
  obtain ⟨record, hok⟩ := hrefused hstored rfl rfl (by decide) (by decide)
  obtain ⟨current, hget, hdecision⟩ := decideApproval_of_ok hok
  rw [hstored] at hget
  cases hget
  rcases hdecision with hfirst | hretry
  · exact absurd hfirst.not_before (by decide)
  · exact hretry.decided rfl

end ChangeOps
