import ChangeOps.ToolGateway.Approvals
import ChangeOps.ToolGateway.Executions
import ChangeOps.ToolGateway.FirestoreRepository

/-!
# ChangeOps.ToolGateway — one governance contract, two adapters

The gateway holds a governance repository and does not know which. `GovernanceOperation` is a call
of any of its methods; `onMemory` and `onFirestore` make it on either adapter.

The in-memory adapter keeps one record per tenant and id; the database keeps it under its change as
well. They part ways where an id is used under another change than the one it is stored for
(`partsWays`). `GovernanceMirrors` says how the stores correspond; every other call answers alike on
corresponding stores and leaves corresponding stores.
-/

namespace ChangeOps

/-! ## Listings of the in-memory adapter -/

/-- `key=lambda item: (item.requested_at, item.approval_id), reverse=True`. -/
def approvalGe (a b : ApprovalRequestRecord) : Prop :=
  b.requestedAt < a.requestedAt ∨ (b.requestedAt = a.requestedAt ∧ b.approvalId ≤ a.approvalId)

instance : DecidableRel approvalGe := fun a b =>
  inferInstanceAs (Decidable (b.requestedAt < a.requestedAt ∨
    (b.requestedAt = a.requestedAt ∧ b.approvalId ≤ a.approvalId)))

/-- `key=lambda event: (event.created_at, event.audit_event_id), reverse=True`. -/
def governanceAuditGe (a b : AuditEvent) : Prop :=
  b.createdAt < a.createdAt ∨ (b.createdAt = a.createdAt ∧ b.auditEventId ≤ a.auditEventId)

instance : DecidableRel governanceAuditGe := fun a b =>
  inferInstanceAs (Decidable (b.createdAt < a.createdAt ∨
    (b.createdAt = a.createdAt ∧ b.auditEventId ≤ a.auditEventId)))

namespace GovernanceRepository

/-- The approval requests of a tenant, in the order of the dictionary. -/
def approvalsOf (repo : GovernanceRepository) (tenantId : String) : List ApprovalRequestRecord :=
  (repo.approvals.entries.filter fun entry => entry.1.1 = tenantId).map Prod.snd

def listApprovalRequests (repo : GovernanceRepository) (tenantId : String) (limit : Nat) :
    List ApprovalRequestRecord :=
  ((repo.approvalsOf tenantId).insertionSort approvalGe).take limit

/-- The audit events of a tenant, in the order of the dictionary. -/
def auditOf (repo : GovernanceRepository) (tenantId : String) : List AuditEvent :=
  (repo.audit.entries.filter fun entry => entry.1.1 = tenantId).map Prod.snd

def listAudit (repo : GovernanceRepository) (tenantId : String) (limit : Nat) : List AuditEvent :=
  ((repo.auditOf tenantId).insertionSort governanceAuditGe).take limit

/-- The execution that is stored for an idempotency key. -/
def heldFor (repo : GovernanceRepository) (key : String × String) : Option ToolExecutionRecord :=
  (repo.executionIds.get? key).bind fun id => repo.executions.get? (key.1, id)

end GovernanceRepository

/-! ## The contract -/

/-- A call of `GovernanceRepository`. -/
inductive GovernanceOperation where
  | write (call : GovernanceCall)
  | getPlan (tenantId changeId planId : String)
  | getApprovalRequest (tenantId approvalId : String)
  | listApprovalRequests (tenantId : String) (limit : Nat)
  | listAudit (tenantId : String) (limit : Nat)

/-- What a call returns. -/
inductive GovernanceAnswer where
  | none
  | approval (record : ApprovalRequestRecord)
  | approvals (records : List ApprovalRequestRecord)
  | plan (plan : RemediationPlan)
  | reservation (reservation : ExecutionReservation)
  | execution (record : ToolExecutionRecord)
  | events (events : List AuditEvent)

/-- What a method answers and leaves, with its result as an answer. -/
def answered {α σ : Type} (answer : α → GovernanceAnswer) (outcome : Except GatewayExn α × σ) :
    Except GatewayExn GovernanceAnswer × σ :=
  (outcome.1.map answer, outcome.2)

namespace GovernanceOperation

variable [Sha256]

def onMemory (repo : GovernanceRepository) :
    GovernanceOperation → Except GatewayExn GovernanceAnswer × GovernanceRepository
  | .write (.createApprovalRequest record plan) =>
      answered .approval (repo.createApprovalRequest record plan)
  | .write (.decideApproval call) => answered .approval (repo.decideApproval call)
  | .write (.reserveExecution call) => answered .reservation (repo.reserveExecution call)
  | .write (.reportExecution tenantId changeId executionId report) =>
      answered .execution (repo.reportExecution tenantId changeId executionId report)
  | .write (.recordAudit event) => answered (fun _ => .none) (repo.recordAudit event)
  | .getPlan tenantId changeId planId =>
      answered .plan (repo.getPlan tenantId changeId planId, repo)
  | .getApprovalRequest tenantId approvalId =>
      answered .approval (repo.getApprovalRequest tenantId approvalId, repo)
  | .listApprovalRequests tenantId limit =>
      answered .approvals (.ok (repo.listApprovalRequests tenantId limit), repo)
  | .listAudit tenantId limit => answered .events (.ok (repo.listAudit tenantId limit), repo)

def onFirestore (server : Time → Time) (repo : FirestoreGovernanceRepository) :
    GovernanceOperation → Except GatewayExn GovernanceAnswer × FirestoreGovernanceRepository
  | .write (.createApprovalRequest record plan) =>
      answered .approval (repo.createApprovalRequest record plan server)
  | .write (.decideApproval call) => answered .approval (repo.decideApproval call server)
  | .write (.reserveExecution call) => answered .reservation (repo.reserveExecution call server)
  | .write (.reportExecution tenantId changeId executionId report) =>
      answered .execution (repo.reportExecution tenantId changeId executionId report server)
  | .write (.recordAudit event) => answered (fun _ => .none) (repo.recordAudit event server)
  | .getPlan tenantId changeId planId =>
      answered .plan (repo.getPlan tenantId changeId planId, repo)
  | .getApprovalRequest tenantId approvalId =>
      answered .approval (repo.getApprovalRequest tenantId approvalId, repo)
  | .listApprovalRequests tenantId limit =>
      answered .approvals (repo.listApprovalRequests tenantId limit, repo)
  | .listAudit tenantId limit => answered .events (repo.listAudit tenantId limit, repo)

/-! ### What the callers promise -/

/-- The identifiers that the database adapter builds document paths from. -/
def documentIds : GovernanceOperation → List String
  | .write (.createApprovalRequest record plan) =>
      [plan.tenantId, plan.changeId, plan.planId, record.tenantId, record.changeId, record.approvalId]
  | .write (.decideApproval call) => [call.tenantId, call.approvalId]
  | .write (.reserveExecution call) =>
      [call.intent.tenantId, call.intent.changeId, idempotencyDigest call.key,
        GovernanceRepository.executionId call.key] ++ call.approvalId.toList
  | .write (.reportExecution tenantId changeId executionId _) => [tenantId, changeId, executionId]
  | .write (.recordAudit event) => [event.tenantId, event.changeId, event.auditEventId]
  | .getPlan tenantId changeId planId => [tenantId, changeId, planId]
  | .getApprovalRequest tenantId approvalId => [tenantId, approvalId]
  | .listApprovalRequests tenantId _ => [tenantId]
  | .listAudit tenantId _ => [tenantId]

/-- The times that the server supplies instead of the caller. -/
def stampedTimes : GovernanceOperation → List Time
  | .write (.createApprovalRequest record _) => record.requestedAt :: record.decidedAt.toList
  | .write (.decideApproval call) => [call.decidedAt]
  | .write (.reserveExecution call) => [call.now]
  | .write (.reportExecution _ _ _ (.completed _ _ completedAt)) => [completedAt]
  | .write (.reportExecution _ _ _ (.failed _ failedAt)) => [failedAt]
  | .write (.recordAudit event) => [event.createdAt]
  | _ => []

/-- The tenant and the id of the audit event of a call. -/
def auditKey? : GovernanceOperation → Option (String × String)
  | .write (.recordAudit event) => some (event.tenantId, event.auditEventId)
  | _ => none

/-- The tenant and the idempotency key of a reservation. -/
def reserveKey? : GovernanceOperation → Option (String × String)
  | .write (.reserveExecution call) => some call.key
  | _ => none

/-- The plan of an approval request. -/
def plan? : GovernanceOperation → Option RemediationPlan
  | .write (.createApprovalRequest _ plan) => some plan
  | _ => none

/-- Document ids that are valid, and a server that writes the times which the caller supplied. -/
structure Promised (operation : GovernanceOperation) (server : Time → Time) : Prop where
  valid : ∀ id ∈ operation.documentIds, isDocumentId id = true
  times : ∀ t ∈ operation.stampedTimes, server t = t

/-! ### Where the adapters part ways -/

end GovernanceOperation

namespace GovernanceRepository

variable [Sha256]

/-- The request passes both plan checks, and the tenant has its approval id under another change. -/
def approvalIdTaken (record : ApprovalRequestRecord) (plan : RemediationPlan)
    (repo : GovernanceRepository) : Bool :=
  calculatePlanHash plan = record.planHash &&
    !((repo.plans.get? (plan.tenantId, plan.changeId, plan.planId)).any fun existing =>
      calculatePlanHash existing ≠ record.planHash) &&
    (repo.approvals.get? (record.tenantId, record.approvalId)).any (·.changeId ≠ record.changeId)

/-- The reservation needs its approval, and the tenant does not have the approval id, or has it
under another change and the in-memory check does not ask for an approval. -/
def approvalElsewhere (call : ReserveCall) (repo : GovernanceRepository) : Bool :=
  call.decision.approvalRequired && call.approval.any fun approval =>
    match repo.approvals.get? (call.intent.tenantId, approval.approvalId) with
    | none => true
    | some stored => stored.changeId ≠ call.intent.changeId &&
        repo.checkApproval call ≠ .error (.gateway approvalRequiredError)

/-- The reservation takes over an execution of another change. -/
def takesOverElsewhere (call : ReserveCall) (repo : GovernanceRepository) : Bool :=
  repo.checkApproval call = .ok () && (repo.heldFor call.key).any fun existing =>
    existing.changeId ≠ call.intent.changeId && existing.inputHash = call.inputHash &&
      existing.status ≠ .SUCCEEDED &&
      !(existing.status = .RESERVED && call.now < existing.updatedAt + Time.minutes 2)

end GovernanceRepository

namespace GovernanceOperation

variable [Sha256]

/-- A call that uses an id under another change than the stored one. -/
def partsWays (repo : GovernanceRepository) : GovernanceOperation → Bool
  | .write (.createApprovalRequest record plan) => repo.approvalIdTaken record plan
  | .write (.reserveExecution call) => repo.approvalElsewhere call || repo.takesOverElsewhere call
  | _ => false

end GovernanceOperation

/-! ## Corresponding stores -/

open GovernanceRepository (heldFor executionId)

/-- The database holds what the dictionaries hold. `keys` and `plans` are the idempotency keys and
the plans that the calls are about. -/
structure GovernanceMirrors [Sha256] (keys : Set (String × String)) (plans : Set RemediationPlan)
    (repo : GovernanceRepository) (store : FirestoreGovernanceRepository) : Prop where
  stored : ∀ tenantId changeId planId, store.plans.get? ((tenantId, changeId), planId) =
    repo.plans.get? (tenantId, changeId, planId)
  planned : ∀ key plan, repo.plans.get? key = some plan → plan ∈ plans
  index : Documents.Indexes ApprovalRequestRecord.toApprovalRequestFields repo.approvals
    store.approvalIndex
  approvals : Documents.Partitions (fun record : ApprovalRequestRecord => record.changeId)
    ApprovalRequestRecord.toApprovalRequestFields repo.approvals store.approvals
  approval_keyed : ∀ key record, repo.approvals.get? key = some record →
    (record.tenantId, record.approvalId) = key ∧ isDocumentId record.changeId = true
  executions : Documents.Partitions ToolExecutionRecord.changeId id repo.executions store.executions
  idempotency : ∀ key ∈ keys,
    store.idempotencyKeys.get? (key.1, idempotencyDigest key) = repo.heldFor key
  held : ∀ tenantId id record, repo.executions.get? (tenantId, id) = some record →
    (tenantId, record.idempotencyKey) ∈ keys ∧
      repo.executionIds.get? (tenantId, record.idempotencyKey) = some id
  ids : ∀ key id, repo.executionIds.get? key = some id → id = executionId key ∧
    ∃ record, repo.executions.get? (key.1, id) = some record ∧ record.idempotencyKey = key.2
  auditIndex : Documents.Indexes id repo.audit store.auditIndex
  audit : Documents.Partitions AuditEvent.changeId id repo.audit store.audit
  audit_keyed : ∀ key event, repo.audit.get? key = some event →
    (event.tenantId, event.auditEventId) = key

/-- A method has the same result on both adapters and leaves corresponding stores. -/
structure GovernanceAlike [Sha256] (keys : Set (String × String)) (plans : Set RemediationPlan)
    {α : Type} (memory : Except GatewayExn α × GovernanceRepository)
    (firestore : Except GatewayExn α × FirestoreGovernanceRepository) : Prop where
  result : memory.1 = firestore.1
  stores : GovernanceMirrors keys plans memory.2 firestore.2

theorem GovernanceAlike.answered [Sha256] {keys : Set (String × String)}
    {plans : Set RemediationPlan} {α : Type} {memory : Except GatewayExn α × GovernanceRepository}
    {firestore : Except GatewayExn α × FirestoreGovernanceRepository}
    (h : GovernanceAlike keys plans memory firestore) (answer : α → GovernanceAnswer) :
    GovernanceAlike keys plans (answered answer memory) (answered answer firestore) where
  result := congrArg (Except.map answer) h.result
  stores := h.stores

/-- A record passes its own validation. -/
theorem readApproval_fields (record : ApprovalRequestRecord) :
    readApproval record.toApprovalRequestFields = .ok record := by
  have hvalid : record.toApprovalRequestFields.modelValidate = .ok record :=
    ApprovalRequestFields.modelValidate_eq_ok.mpr
      ⟨_, _, record.decided_by_checked, record.comment_checked, rfl⟩
  rw [readApproval, hvalid]
  rfl

namespace GovernanceMirrors

variable [Sha256] {keys : Set (String × String)} {plans : Set RemediationPlan}
  {repo : GovernanceRepository} {store : FirestoreGovernanceRepository}

theorem empty : GovernanceMirrors keys plans .empty .empty where
  stored _ _ _ := rfl
  planned _ _ h := by cases h
  index _ := rfl
  approvals _ _ _ := rfl
  approval_keyed _ _ h := by cases h
  executions _ _ _ := rfl
  idempotency _ _ := rfl
  held _ _ _ h := by cases h
  ids _ _ h := by cases h
  auditIndex _ := rfl
  audit _ _ _ := rfl
  audit_keyed _ _ h := by cases h

/-! ### Reading -/

theorem getPlan (h : GovernanceMirrors keys plans repo store) {tenantId changeId planId : String}
    (htenant : isDocumentId tenantId = true) (hchange : isDocumentId changeId = true)
    (hplan : isDocumentId planId = true) :
    repo.getPlan tenantId changeId planId = store.getPlan tenantId changeId planId := by
  have hreference : planReference tenantId changeId planId = .ok ((tenantId, changeId), planId) :=
    inChange_of_valid htenant hchange hplan _
  unfold GovernanceRepository.getPlan FirestoreGovernanceRepository.getPlan
  rw [hreference, ← h.stored]
  rfl

theorem getApprovalRequest (h : GovernanceMirrors keys plans repo store)
    {tenantId approvalId : String} (htenant : isDocumentId tenantId = true)
    (hid : isDocumentId approvalId = true) :
    repo.getApprovalRequest tenantId approvalId = store.getApprovalRequest tenantId approvalId := by
  have hreference : approvalIndexReference tenantId approvalId = .ok (tenantId, approvalId) :=
    inTenant_of_valid htenant hid _
  unfold GovernanceRepository.getApprovalRequest FirestoreGovernanceRepository.getApprovalRequest
  simp only [hreference, bind, Except.bind, h.index (tenantId, approvalId)]
  cases repo.approvals.get? (tenantId, approvalId) with
  | none => rfl
  | some record => exact (readApproval_fields record).symm

theorem collection_approvals (h : GovernanceMirrors keys plans repo store) (tenantId : String) :
    Documents.collection repo.approvals tenantId =
      (repo.approvalsOf tenantId).map fun record => (record.approvalId, record) := by
  rw [Documents.collection, GovernanceRepository.approvalsOf, List.map_map]
  apply List.map_congr_left
  intro entry hmem
  have hkey := (h.approval_keyed entry.1 entry.2 (Dict.get?_of_mem (List.mem_filter.mp hmem).1)).1
  show (entry.1.2, entry.2) = (entry.2.approvalId, entry.2)
  rw [← hkey]

theorem collection_audit (h : GovernanceMirrors keys plans repo store) (tenantId : String) :
    Documents.collection repo.audit tenantId =
      (repo.auditOf tenantId).map fun event => (event.auditEventId, event) := by
  rw [Documents.collection, GovernanceRepository.auditOf, List.map_map]
  apply List.map_congr_left
  intro entry hmem
  have hkey := h.audit_keyed entry.1 entry.2 (Dict.get?_of_mem (List.mem_filter.mp hmem).1)
  show (entry.1.2, entry.2) = (entry.2.auditEventId, entry.2)
  rw [← hkey]

omit [Sha256] in
/-- Documents that are valid records are read as these records. -/
theorem mapM_readApproval (l : List ApprovalRequestRecord) :
    (l.map fun record => (record.approvalId, record.toApprovalRequestFields)).mapM
      (fun document => readApproval document.2) = .ok l := by
  induction l with
  | nil => rfl
  | cons record l ih =>
    simp only [List.map_cons, List.mapM_cons, readApproval_fields, ih, bind, Except.bind, pure,
      Except.pure]

theorem listApprovalRequests (h : GovernanceMirrors keys plans repo store) {tenantId : String}
    (htenant : isDocumentId tenantId = true) (limit : Nat) :
    store.listApprovalRequests tenantId limit = .ok (repo.listApprovalRequests tenantId limit) := by
  have hperm := Documents.collection_perm_of_indexes h.index tenantId
  rw [h.collection_approvals, List.map_map] at hperm
  have hquery := Documents.query_eq (Documents.fieldGe ApprovalRequestFields.requestedAt) approvalGe
    (fun hab hba => Documents.name_eq_of_fieldLe hba hab) _ (fun _ _ _ _ => Iff.rfl) hperm
  simp only [FirestoreGovernanceRepository.listApprovalRequests, documentId_of_valid htenant,
    Documents.descending, hquery, bind, Except.bind, ← List.map_take]
  exact mapM_readApproval _

theorem listAudit (h : GovernanceMirrors keys plans repo store) {tenantId : String}
    (htenant : isDocumentId tenantId = true) (limit : Nat) :
    store.listAudit tenantId limit = .ok (repo.listAudit tenantId limit) := by
  have hperm := Documents.collection_perm_of_indexes h.auditIndex tenantId
  rw [h.collection_audit, List.map_map] at hperm
  have hquery := Documents.query_eq (Documents.fieldGe AuditEvent.createdAt) governanceAuditGe
    (fun hab hba => Documents.name_eq_of_fieldLe hba hab) _ (fun _ _ _ _ => Iff.rfl) hperm
  simp only [FirestoreGovernanceRepository.listAudit, documentId_of_valid htenant,
    Documents.descending, hquery, bind, Except.bind, pure, Except.pure, ← List.map_take,
    List.map_map]
  exact congrArg Except.ok (List.map_id _)

/-! ### Writing -/

theorem recordAudit (h : GovernanceMirrors keys plans repo store) {event : AuditEvent}
    {server : Time → Time} (htenant : isDocumentId event.tenantId = true)
    (hchange : isDocumentId event.changeId = true) (hevent : isDocumentId event.auditEventId = true)
    (hstamped : server event.createdAt = event.createdAt)
    (hnew : repo.audit.get? (event.tenantId, event.auditEventId) = none) :
    GovernanceAlike keys plans (repo.recordAudit event) (store.recordAudit event server) := by
  have hreference : governanceAuditReference event.tenantId event.changeId event.auditEventId =
      .ok ((event.tenantId, event.changeId), event.auditEventId) :=
    inChange_of_valid htenant hchange hevent _
  have hindexReference : governanceAuditIndexReference event.tenantId event.auditEventId =
      .ok (event.tenantId, event.auditEventId) := inTenant_of_valid htenant hevent _
  have haudit := h.audit.get?_of_none hnew event.changeId
  have hindex : store.auditIndex.get? (event.tenantId, event.auditEventId) = none := by
    rw [h.auditIndex, hnew]
    rfl
  have hdocument : auditDocument event server = event := by rw [auditDocument, hstamped]
  unfold GovernanceRepository.recordAudit FirestoreGovernanceRepository.recordAudit
  simp only [hreference, hindexReference, hnew, haudit, hdocument, Option.isSome_none,
    Bool.false_eq_true, if_false, Dict.create_of_none event haudit, Dict.create_of_none event hindex,
    FirestoreGovernanceRepository.transact, bind, Except.bind, pure, Except.pure]
  refine ⟨rfl, { h with
    auditIndex := h.auditIndex.set _ event
    audit := h.audit.set event fun old hold => ?_
    audit_keyed := fun key stored hget => ?_ }⟩
  · rw [hnew] at hold
    cases hold
  · change (repo.audit.set _ _).get? key = some stored at hget
    rw [Dict.get?_set] at hget
    split_ifs at hget with hkey
    · cases hget
      exact hkey.symm
    · exact h.audit_keyed key stored hget

/-- A request and its plan are stored where no request is stored yet. -/
theorem storeRequest (h : GovernanceMirrors keys plans repo store)
    (hinj : Set.InjOn calculatePlanHash plans) {record : ApprovalRequestRecord}
    {plan : RemediationPlan} (hplan : plan ∈ plans) (hchange : isDocumentId record.changeId = true)
    (hhash : calculatePlanHash plan = record.planHash)
    (hexisting : ∀ existing, repo.plans.get? (plan.tenantId, plan.changeId, plan.planId) =
      some existing → calculatePlanHash existing = record.planHash)
    (hnew : repo.approvals.get? (record.tenantId, record.approvalId) = none)
    (tenants : Dict String (List String)) :
    GovernanceMirrors keys plans
      { repo with
        plans := repo.plans.set (plan.tenantId, plan.changeId, plan.planId) plan
        approvals := repo.approvals.set (record.tenantId, record.approvalId) record
        approvalTenants := tenants }
      { store with
        plans :=
          if (repo.plans.get? (plan.tenantId, plan.changeId, plan.planId)).isSome then store.plans
          else store.plans.set ((plan.tenantId, plan.changeId), plan.planId) plan
        approvals := store.approvals.set ((record.tenantId, record.changeId), record.approvalId)
          record.toApprovalRequestFields
        approvalIndex := store.approvalIndex.set (record.tenantId, record.approvalId)
          record.toApprovalRequestFields } :=
  { h with
    stored := fun tenantId changeId planId => by
      show Dict.get? (if _ then store.plans else store.plans.set _ plan) _ =
        (repo.plans.set _ plan).get? _
      by_cases hkey : (tenantId, changeId, planId) = (plan.tenantId, plan.changeId, plan.planId)
      · cases hkey
        rw [Dict.get?_set_self]
        cases hget : repo.plans.get? (plan.tenantId, plan.changeId, plan.planId) with
        | none => exact Dict.get?_set_self _ _ _
        | some existing =>
          -- what is stored already is the same plan
          have hsame : existing = plan := hinj (h.planned _ _ hget) hplan
            ((hexisting existing hget).trans hhash.symm)
          rw [Option.isSome_some, if_pos rfl, h.stored, hget, hsame]
      · have hother : ((tenantId, changeId), planId) ≠
            ((plan.tenantId, plan.changeId), plan.planId) := by
          intro heq
          cases heq
          exact hkey rfl
        rw [Dict.get?_set_ne _ _ hkey]
        split_ifs
        · exact h.stored tenantId changeId planId
        · exact (Dict.get?_set_ne _ _ hother).trans (h.stored tenantId changeId planId)
    planned := fun key stored hget => by
      change (repo.plans.set _ _).get? key = some stored at hget
      rw [Dict.get?_set] at hget
      split_ifs at hget
      · cases hget
        exact hplan
      · exact h.planned key stored hget
    index := h.index.set _ record
    approvals := h.approvals.set record fun old hold => by
      rw [hnew] at hold
      cases hold
    approval_keyed := fun key stored hget => by
      change (repo.approvals.set _ _).get? key = some stored at hget
      rw [Dict.get?_set] at hget
      split_ifs at hget with hkey
      · cases hget
        exact ⟨hkey.symm, hchange⟩
      · exact h.approval_keyed key stored hget }

omit [Sha256] in
theorem approvalDocument_eq {record : ApprovalRequestRecord} {server : Time → Time}
    {serverRequestedAt : Bool}
    (hrequested : serverRequestedAt = true → server record.requestedAt = record.requestedAt)
    (hdecided : ∀ t ∈ record.decidedAt, server t = t) :
    approvalDocument record serverRequestedAt server = record.toApprovalRequestFields := by
  have hmap : record.decidedAt.map server = record.decidedAt := by
    cases hget : record.decidedAt with
    | none => rfl
    | some t => rw [Option.map_some, hdecided t hget]
  have htime : (if serverRequestedAt then server record.requestedAt else record.requestedAt) =
      record.requestedAt := by
    cases serverRequestedAt with
    | false => rfl
    | true => exact hrequested rfl
  rw [approvalDocument, hmap, htime]

theorem createApprovalRequest (h : GovernanceMirrors keys plans repo store)
    (hinj : Set.InjOn calculatePlanHash plans) {record : ApprovalRequestRecord}
    {plan : RemediationPlan} {server : Time → Time} (hplan : plan ∈ plans)
    (hpromised : (GovernanceOperation.write (.createApprovalRequest record plan)).Promised server)
    (hagree : repo.approvalIdTaken record plan = false) :
    GovernanceAlike keys plans (repo.createApprovalRequest record plan)
      (store.createApprovalRequest record plan server) := by
  obtain ⟨hvalid, htimes⟩ := hpromised
  simp only [GovernanceOperation.documentIds, GovernanceOperation.stampedTimes,
    List.forall_mem_cons, Option.mem_toList] at hvalid htimes
  obtain ⟨hplanTenant, hplanChange, hplanId, htenant, hchange, hid, -⟩ := hvalid
  have hreference : planReference plan.tenantId plan.changeId plan.planId =
      .ok ((plan.tenantId, plan.changeId), plan.planId) :=
    inChange_of_valid hplanTenant hplanChange hplanId _
  have happroval : approvalReference record.tenantId record.changeId record.approvalId =
      .ok ((record.tenantId, record.changeId), record.approvalId) :=
    inChange_of_valid htenant hchange hid _
  have hindexReference : approvalIndexReference record.tenantId record.approvalId =
      .ok (record.tenantId, record.approvalId) := inTenant_of_valid htenant hid _
  have hdocument : approvalDocument record true server = record.toApprovalRequestFields :=
    approvalDocument_eq (fun _ => htimes.1) htimes.2
  unfold GovernanceRepository.createApprovalRequest
    FirestoreGovernanceRepository.createApprovalRequest
  by_cases hhash : calculatePlanHash plan = record.planHash
  swap
  · simp only [hhash, ne_eq, not_false_eq_true, if_true, FirestoreGovernanceRepository.transact, bind,
      Except.bind, throw, throwThe, MonadExceptOf.throw]
    exact ⟨rfl, h⟩
  cases hexisting : (repo.plans.get? (plan.tenantId, plan.changeId, plan.planId)).any
      fun existing => calculatePlanHash existing ≠ record.planHash with
  | true =>
    simp only [hhash, ne_eq, not_true_eq_false, if_false, if_true, hreference, happroval,
      hindexReference, h.stored, hexisting, FirestoreGovernanceRepository.transact, bind, Except.bind,
      throw, throwThe, MonadExceptOf.throw]
    exact ⟨rfl, h⟩
  | false =>
    cases hget : repo.approvals.get? (record.tenantId, record.approvalId) with
    | none =>
      have hnone := h.approvals.get?_of_none hget record.changeId
      have hnoIndex : store.approvalIndex.get? (record.tenantId, record.approvalId) = none := by
        rw [h.index, hget]
        rfl
      simp only [hhash, ne_eq, not_true_eq_false, if_false, hreference, happroval, hindexReference,
        h.stored, hexisting, Bool.false_eq_true, hget, hnone, hnoIndex, hdocument,
        FirestoreGovernanceRepository.transact, bind, Except.bind, pure, Except.pure]
      refine ⟨rfl, h.storeRequest hinj hplan hchange hhash (fun existing hstored => ?_) hget _⟩
      rw [hstored, Option.any_some] at hexisting
      simpa using hexisting
    | some existing =>
      have hplace : existing.changeId = record.changeId := by
        rw [GovernanceRepository.approvalIdTaken, hexisting, hget, decide_eq_true hhash] at hagree
        simpa using hagree
      have hsome := h.approvals.get?_of_some hget
      rw [hplace] at hsome
      have hindexed : store.approvalIndex.get? (record.tenantId, record.approvalId) =
          some existing.toApprovalRequestFields := by
        rw [h.index, hget]
        rfl
      simp only [hhash, ne_eq, not_true_eq_false, if_false, hreference, happroval, hindexReference,
        h.stored, hexisting, Bool.false_eq_true, hget, hsome, hindexed, readApproval_fields,
        FirestoreGovernanceRepository.transact, bind, Except.bind, pure, Except.pure]
      split_ifs
      · exact ⟨rfl, h⟩
      · exact ⟨rfl, h⟩

theorem createApprovalRequest_new {record : ApprovalRequestRecord} {plan : RemediationPlan}
    (hhash : calculatePlanHash plan = record.planHash)
    (hplan : repo.plans.get? (plan.tenantId, plan.changeId, plan.planId) = none)
    (hget : repo.approvals.get? (record.tenantId, record.approvalId) = none) :
    repo.createApprovalRequest record plan = (.ok record, { repo with
      plans := repo.plans.set (plan.tenantId, plan.changeId, plan.planId) plan
      approvals := repo.approvals.set (record.tenantId, record.approvalId) record
      approvalTenants := repo.approvalTenants.set record.approvalId
        (addTenant (repo.approvalTenants.getD record.approvalId []) record.tenantId) }) := by
  simp [GovernanceRepository.createApprovalRequest, hhash, hplan, hget]

/-- The tenant has the approval id under another change: one adapter reports a conflict, the other
that its indexes are inconsistent. -/
theorem createApprovalRequest_taken (h : GovernanceMirrors keys plans repo store)
    {record : ApprovalRequestRecord} {plan : RemediationPlan} (server : Time → Time)
    (hvalid : ∀ id ∈ (GovernanceOperation.write (.createApprovalRequest record plan)).documentIds,
      isDocumentId id = true)
    (htaken : repo.approvalIdTaken record plan = true) :
    repo.createApprovalRequest record plan = (.error (.gateway (gatewayConflictError
        "Approval request identifier already exists.")), repo) ∧
      store.createApprovalRequest record plan server =
        (.error (.raised (.other "Approval request indexes are inconsistent.")), store) := by
  simp only [GovernanceOperation.documentIds, List.forall_mem_cons] at hvalid
  obtain ⟨hplanTenant, hplanChange, hplanId, htenant, hchange, hid, -⟩ := hvalid
  have hreference : planReference plan.tenantId plan.changeId plan.planId =
      .ok ((plan.tenantId, plan.changeId), plan.planId) :=
    inChange_of_valid hplanTenant hplanChange hplanId _
  have happroval : approvalReference record.tenantId record.changeId record.approvalId =
      .ok ((record.tenantId, record.changeId), record.approvalId) :=
    inChange_of_valid htenant hchange hid _
  have hindexReference : approvalIndexReference record.tenantId record.approvalId =
      .ok (record.tenantId, record.approvalId) := inTenant_of_valid htenant hid _
  simp only [GovernanceRepository.approvalIdTaken, Bool.and_eq_true, decide_eq_true_eq,
    Bool.not_eq_true', Option.any_eq_true] at htaken
  obtain ⟨⟨hhash, hexisting⟩, existing, hget, hplace⟩ := htaken
  have hother : sameApprovalRequest existing record = false := by
    simp [sameApprovalRequest, hplace]
  have hnone := h.approvals.get?_of_ne hget hplace
  have hindexed : store.approvalIndex.get? (record.tenantId, record.approvalId) =
      some existing.toApprovalRequestFields := by
    rw [h.index, hget]
    rfl
  constructor
  · simp only [GovernanceRepository.createApprovalRequest, hhash, hexisting, hget, hother, ne_eq,
      not_true_eq_false, if_false, Bool.and_false, Bool.false_eq_true]
  · simp only [FirestoreGovernanceRepository.createApprovalRequest, hhash, ne_eq, not_true_eq_false,
      if_false, hreference, happroval, hindexReference, h.stored, hexisting, Bool.false_eq_true, hnone,
      hindexed, FirestoreGovernanceRepository.transact, bind, Except.bind, throw, throwThe,
      MonadExceptOf.throw, FirestoreGovernanceRepository.inconsistent]

/-- A decision replaces the request in both places. -/
theorem storeDecision (h : GovernanceMirrors keys plans repo store)
    {key : String × String} {current updated : ApprovalRequestRecord}
    (hget : repo.approvals.get? key = some current)
    (htenant : updated.tenantId = current.tenantId)
    (hid : updated.approvalId = current.approvalId)
    (hchange : updated.changeId = current.changeId) :
    GovernanceMirrors keys plans
      { repo with approvals := repo.approvals.set key updated }
      { store with
        approvals := store.approvals.set ((key.1, current.changeId), key.2)
          updated.toApprovalRequestFields
        approvalIndex := store.approvalIndex.set key updated.toApprovalRequestFields } :=
  { h with
    index := h.index.set key updated
    approvals := by
      rw [← hchange]
      exact h.approvals.set updated fun old hold => by
        rw [show (key.1, key.2) = key from rfl, hget] at hold
        cases hold
        exact hchange.symm
    approval_keyed := fun key' stored hstored => by
      change (repo.approvals.set _ _).get? key' = some stored at hstored
      rw [Dict.get?_set] at hstored
      split_ifs at hstored with hkey
      · cases hstored
        rw [htenant, hid, hchange, hkey]
        exact h.approval_keyed key current hget
      · exact h.approval_keyed key' stored hstored }

theorem decideApproval (h : GovernanceMirrors keys plans repo store) {call : DecideCall}
    {server : Time → Time}
    (hpromised : (GovernanceOperation.write (.decideApproval call)).Promised server) :
    GovernanceAlike keys plans (repo.decideApproval call) (store.decideApproval call server) := by
  obtain ⟨hvalid, htimes⟩ := hpromised
  simp only [GovernanceOperation.documentIds, GovernanceOperation.stampedTimes,
    List.forall_mem_cons] at hvalid htimes
  obtain ⟨htenant, hid, -⟩ := hvalid
  have hindexReference : approvalIndexReference call.tenantId call.approvalId =
      .ok (call.tenantId, call.approvalId) := inTenant_of_valid htenant hid _
  unfold GovernanceRepository.decideApproval FirestoreGovernanceRepository.decideApproval
    GovernanceRepository.getApprovalRequest
  cases hget : repo.approvals.get? (call.tenantId, call.approvalId) with
  | none =>
    have hindexed : store.approvalIndex.get? (call.tenantId, call.approvalId) = none := by
      rw [h.index, hget]
      rfl
    simp only [hindexReference, hindexed, FirestoreGovernanceRepository.transact, bind, Except.bind,
      throw, throwThe, MonadExceptOf.throw]
    exact ⟨rfl, h⟩
  | some current =>
    have hindexed : store.approvalIndex.get? (call.tenantId, call.approvalId) =
        some current.toApprovalRequestFields := by
      rw [h.index, hget]
      rfl
    have hsome := h.approvals.get?_of_some hget
    have hreference : approvalReference call.tenantId current.changeId call.approvalId =
        .ok ((call.tenantId, current.changeId), call.approvalId) :=
      inChange_of_valid htenant (h.approval_keyed _ _ hget).2 hid _
    simp only [hindexReference, hindexed, readApproval_fields, hreference, hsome, ne_eq,
      not_true_eq_false, if_false, FirestoreGovernanceRepository.transact, bind, Except.bind, throw,
      throwThe, MonadExceptOf.throw, pure, Except.pure]
    by_cases hpending : current.status = .PENDING
    swap
    · simp only [hpending, not_false_eq_true, if_true]
      split_ifs
      · exact ⟨rfl, h⟩
      · exact ⟨rfl, h⟩
    by_cases hversion : current.version = call.expectedVersion
    swap
    · simp only [hpending, hversion, not_true_eq_false, not_false_eq_true, if_true, if_false]
      exact ⟨rfl, h⟩
    by_cases hexpired : current.expiresAt ≤ call.decidedAt
    · simp only [hpending, hversion, hexpired, not_true_eq_false, if_true, if_false]
      exact ⟨rfl, h⟩
    by_cases hself : current.requestedBy = call.decidedBy
    · simp only [hpending, hversion, hexpired, hself, not_true_eq_false, if_true, if_false]
      exact ⟨rfl, h⟩
    simp only [hpending, hversion, hexpired, hself, not_true_eq_false, if_false]
    cases hvalidate : (current.decidedDocument call).modelValidate with
    | error e =>
      simp only [readApproval, hvalidate, Except.mapError]
      exact ⟨rfl, h⟩
    | ok updated =>
      obtain ⟨decidedBy, comment, -, -, hfields⟩ :=
        ApprovalRequestFields.modelValidate_eq_ok.mp hvalidate
      have hdocument : approvalDocument updated false server = updated.toApprovalRequestFields := by
        refine approvalDocument_eq (fun hfalse => by cases hfalse) fun t ht => ?_
        rw [hfields] at ht
        cases ht
        exact htimes.1
      simp only [readApproval, hvalidate, Except.mapError, hdocument]
      refine ⟨rfl, h.storeDecision hget ?_ ?_ ?_⟩
      · rw [hfields]
        rfl
      · rw [hfields]
        rfl
      · rw [hfields]
        rfl

/-! ### Reservations -/

omit [Sha256] in
/-- Where no parting of the ways is in sight, the stored approvals are checked alike. -/
theorem checkApproval_of_stored {call : ReserveCall} {approval : Approval}
    {stored : ApprovalRequestRecord} (hrequired : call.decision.approvalRequired = true)
    (happroval : call.approval = some approval) {reference : (String × String) × String}
    (hget : repo.approvals.get? (call.intent.tenantId, approval.approvalId) = some stored)
    (hsome : store.approvals.get? reference = some stored.toApprovalRequestFields) :
    repo.checkApproval call = store.checkApproval call (some reference) := by
  unfold GovernanceRepository.checkApproval FirestoreGovernanceRepository.checkApproval
    GovernanceRepository.getApprovalRequest
  simp only [hrequired, if_true, happroval, hget, hsome, readApproval_fields, bind, Except.bind]
  cases stored.asApproval with
  | error e => rfl
  | ok current =>
    cases current with
    | none => rfl
    | some current =>
      by_cases hcurrent : current ≠ approval ∨ current.expiresAt ≤ call.now
      · have hany : current ≠ approval ∨ current.expiresAt ≤ call.now ∨
            call.intent.stepId ∉ current.scope ∨ current.planHash ≠ call.intent.planHash := by
          rcases hcurrent with hne | hexpired
          · exact .inl hne
          · exact .inr (.inl hexpired)
        simp only [hcurrent, hany, if_true]
        rfl
      · obtain ⟨hsame, hlive⟩ := not_or.mp hcurrent
        simp only [hsame, hlive, false_or, if_false]

theorem checkApproval_eq (h : GovernanceMirrors keys plans repo store) {call : ReserveCall}
    (hagree : repo.approvalElsewhere call = false) :
    repo.checkApproval call = store.checkApproval call
      (call.approvalId.map fun id => ((call.intent.tenantId, call.intent.changeId), id)) := by
  cases hrequired : call.decision.approvalRequired with
  | false =>
    simp [GovernanceRepository.checkApproval, FirestoreGovernanceRepository.checkApproval, hrequired]
  | true =>
    cases happroval : call.approval with
    | none =>
      simp [GovernanceRepository.checkApproval, FirestoreGovernanceRepository.checkApproval, hrequired,
        happroval]
    | some approval =>
      have hreference : (call.approvalId.map fun id =>
          ((call.intent.tenantId, call.intent.changeId), id)) =
          some ((call.intent.tenantId, call.intent.changeId), approval.approvalId) := by
        rw [ReserveCall.approvalId, happroval]
        rfl
      rw [hreference]
      cases hget : repo.approvals.get? (call.intent.tenantId, approval.approvalId) with
      | none => simp [GovernanceRepository.approvalElsewhere, hrequired, happroval, hget] at hagree
      | some stored =>
        by_cases hplace : stored.changeId = call.intent.changeId
        · have hsome := h.approvals.get?_of_some hget
          rw [hplace] at hsome
          exact checkApproval_of_stored hrequired happroval hget hsome
        · -- under another change, the in-memory check asks for an approval too
          have hrefused : repo.checkApproval call = .error (.gateway approvalRequiredError) := by
            simpa [GovernanceRepository.approvalElsewhere, hrequired, happroval, hget, hplace] using
              hagree
          have hnone := h.approvals.get?_of_ne hget hplace
          rw [hrefused]
          simp only [FirestoreGovernanceRepository.checkApproval, hrequired, if_true, happroval, hnone]

/-- The execution id is a part of the digest. -/
theorem executionId_of_digest {key key' : String × String}
    (h : idempotencyDigest key = idempotencyDigest key') : executionId key = executionId key' := by
  have hlist := String.ofList_injective h
  rw [executionId, executionId, shortDigest, shortDigest, hlist]

/-- An execution is stored for a key, under the change that it had. -/
theorem storeExecution (h : GovernanceMirrors keys plans repo store)
    (hinj : Set.InjOn executionId keys) {key : String × String} (hkey : key ∈ keys)
    {record : ToolExecutionRecord} (hrecord : record.idempotencyKey = key.2)
    (hplace : ∀ old, repo.executions.get? (key.1, executionId key) = some old →
      old.changeId = record.changeId) {ids : Dict (String × String) String}
    (hids : ∀ key', ids.get? key' =
      if key' = key then some (executionId key) else repo.executionIds.get? key') :
    GovernanceMirrors keys plans
      { repo with
        executions := repo.executions.set (key.1, executionId key) record
        executionIds := ids }
      { store with
        executions := store.executions.set ((key.1, record.changeId), executionId key) record
        idempotencyKeys := store.idempotencyKeys.set (key.1, idempotencyDigest key) record } := by
  -- other keys have other execution ids
  have hother : ∀ key' ∈ keys, key' ≠ key → (key'.1, executionId key') ≠ (key.1, executionId key) :=
    fun key' hmem hne heq => hne (hinj hmem hkey (Prod.mk.inj heq).2)
  refine { h with
    executions := h.executions.set record hplace
    idempotency := fun key' hmem => ?_
    held := fun tenantId id held hget => ?_
    ids := fun key' id hget => ?_ }
  · show (store.idempotencyKeys.set _ _).get? _ =
      (ids.get? key').bind fun id => (repo.executions.set _ _).get? (key'.1, id)
    rw [hids]
    by_cases heq : key' = key
    · subst heq
      rw [if_pos rfl, Dict.get?_set_self]
      exact (Dict.get?_set_self _ _ _).symm
    · have hdigest : (key'.1, idempotencyDigest key') ≠ (key.1, idempotencyDigest key) :=
        fun hsame => heq (hinj hmem hkey (executionId_of_digest (Prod.mk.inj hsame).2))
      rw [if_neg heq, Dict.get?_set_ne _ _ hdigest, h.idempotency key' hmem]
      unfold GovernanceRepository.heldFor
      cases hid : repo.executionIds.get? key' with
      | none => rfl
      | some id =>
        rw [(h.ids key' id hid).1, Option.bind_some, Option.bind_some,
          Dict.get?_set_ne _ _ (hother key' hmem heq)]
  · change (repo.executions.set _ _).get? (tenantId, id) = some held at hget
    show _ ∧ ids.get? _ = _
    rw [Dict.get?_set] at hget
    split_ifs at hget with hpath
    · obtain ⟨rfl, rfl⟩ := Prod.mk.inj hpath
      cases hget
      rw [hrecord, hids, if_pos rfl]
      exact ⟨hkey, rfl⟩
    · obtain ⟨hmem, hid⟩ := h.held tenantId id held hget
      refine ⟨hmem, ?_⟩
      rw [hids, if_neg, hid]
      intro heq
      have htenant : tenantId = key.1 := congrArg Prod.fst heq
      have hid' : id = executionId key := heq ▸ (h.ids _ id hid).1
      rw [htenant, hid'] at hpath
      exact hpath rfl
  · change ids.get? key' = some id at hget
    show _ ∧ ∃ record', (repo.executions.set _ _).get? _ = some record' ∧ _
    rw [hids] at hget
    split_ifs at hget with heq
    · cases hget
      subst heq
      exact ⟨rfl, record, Dict.get?_set_self _ _ _, hrecord⟩
    · obtain ⟨hid, held, hheld, hheldKey⟩ := h.ids key' id hget
      have hmem := (h.held key'.1 id held hheld).1
      rw [hheldKey] at hmem
      refine ⟨hid, held, ?_, hheldKey⟩
      rw [hid] at hheld ⊢
      rw [Dict.get?_set_ne _ _ (hother key' hmem heq)]
      exact hheld

omit [Sha256] in
theorem executionDocument_eq {record : ToolExecutionRecord} {server : Time → Time}
    (h : server record.updatedAt = record.updatedAt) : executionDocument record server = record := by
  rw [executionDocument, h]

/-- What is held for a key is stored under its execution id. -/
theorem heldFor_of_some (h : GovernanceMirrors keys plans repo store) {key : String × String}
    {id : String} (hid : repo.executionIds.get? key = some id) :
    id = executionId key ∧ ∃ existing, repo.executions.get? (key.1, executionId key) = some existing ∧
      existing.idempotencyKey = key.2 ∧ repo.heldFor key = some existing := by
  obtain ⟨rfl, existing, hexisting, hkey⟩ := h.ids key id hid
  refine ⟨rfl, existing, hexisting, hkey, ?_⟩
  rw [GovernanceRepository.heldFor, hid, Option.bind_some, hexisting]

/-- No execution of another key has the id of a key that nothing is held for. -/
theorem executions_of_none (h : GovernanceMirrors keys plans repo store)
    (hinj : Set.InjOn executionId keys) {key : String × String} (hkey : key ∈ keys)
    (hid : repo.executionIds.get? key = none) :
    repo.executions.get? (key.1, executionId key) = none := by
  cases hget : repo.executions.get? (key.1, executionId key) with
  | none => rfl
  | some old =>
    obtain ⟨hmem, hold⟩ := h.held key.1 _ old hget
    have hsame : key = (key.1, old.idempotencyKey) := hinj hkey hmem (h.ids _ _ hold).1
    rw [← hsame, hid] at hold
    cases hold

theorem reserveExecution (h : GovernanceMirrors keys plans repo store)
    (hinj : Set.InjOn executionId keys) {call : ReserveCall} {server : Time → Time}
    (hkey : call.key ∈ keys)
    (hpromised : (GovernanceOperation.write (.reserveExecution call)).Promised server)
    (happroval : repo.approvalElsewhere call = false)
    (htakeover : repo.takesOverElsewhere call = false) :
    GovernanceAlike keys plans (repo.reserveExecution call) (store.reserveExecution call server) := by
  obtain ⟨hvalid, htimes⟩ := hpromised
  simp only [GovernanceOperation.documentIds, GovernanceOperation.stampedTimes, List.cons_append,
    List.nil_append, List.forall_mem_cons, Option.mem_toList] at hvalid htimes
  obtain ⟨htenant, hchange, hdigest, hexecution, hids⟩ := hvalid
  have hidempotency : idempotencyReference call.intent.tenantId (idempotencyDigest call.key) =
      .ok (call.intent.tenantId, idempotencyDigest call.key) := inTenant_of_valid htenant hdigest _
  have hreference : executionReference call.intent.tenantId call.intent.changeId
      (executionId call.key) =
      .ok ((call.intent.tenantId, call.intent.changeId), executionId call.key) :=
    inChange_of_valid htenant hchange hexecution _
  have happrovals : (call.approvalId.mapM fun approvalId =>
      approvalReference call.intent.tenantId call.intent.changeId approvalId) =
      .ok (call.approvalId.map fun id => ((call.intent.tenantId, call.intent.changeId), id)) := by
    cases hid : call.approvalId with
    | none => rfl
    | some id =>
      have hone : approvalReference call.intent.tenantId call.intent.changeId id =
          .ok ((call.intent.tenantId, call.intent.changeId), id) :=
        inChange_of_valid htenant hchange (hids id hid) _
      simp only [Option.mapM_some, hone, Functor.map, Except.map, Option.map_some]
  have hread : store.idempotencyKeys.get? (call.intent.tenantId, idempotencyDigest call.key) =
      repo.heldFor call.key := h.idempotency call.key hkey
  unfold GovernanceRepository.reserveExecution FirestoreGovernanceRepository.reserveExecution
  simp only [hidempotency, hreference, happrovals, ← h.checkApproval_eq happroval, hread,
    FirestoreGovernanceRepository.transact, bind, Except.bind, pure, Except.pure]
  cases hcheck : repo.checkApproval call with
  | error e => exact ⟨rfl, h⟩
  | ok u =>
    unfold GovernanceRepository.reserveChecked
    cases hid : repo.executionIds.get? call.key with
    | none =>
      have hnone : repo.heldFor call.key = none := by
        rw [GovernanceRepository.heldFor, hid, Option.bind_none]
      simp only [hnone, FirestoreGovernanceRepository.reservedRecord]
      cases hhash : digestStr call.inputHash with
      | error e => exact ⟨rfl, h⟩
      | ok inputHash =>
        have hdocument : executionDocument (newExecution (executionId call.key) inputHash call.intent
            call.decision.decisionId call.approvalId call.now) server =
            newExecution (executionId call.key) inputHash call.intent call.decision.decisionId
              call.approvalId call.now := executionDocument_eq htimes.1
        simp only [Bool.false_eq_true, if_false, hdocument]
        refine ⟨rfl, h.storeExecution hinj hkey rfl (fun old hold => ?_) fun key' => ?_⟩
        · rw [h.executions_of_none hinj hkey hid] at hold
          cases hold
        · exact Dict.get?_set _ _ _ _
    | some id =>
      obtain ⟨rfl, existing, hexisting, hexistingKey, hheld⟩ := h.heldFor_of_some hid
      have hstored : repo.executions.get? (call.intent.tenantId, executionId call.key) =
          some existing := hexisting
      simp only [hheld, hstored, FirestoreGovernanceRepository.reservedRecord]
      by_cases hhash : existing.inputHash = call.inputHash
      swap
      · simp only [hhash, ne_eq, not_false_eq_true, if_true]
        exact ⟨rfl, h⟩
      by_cases hsucceeded : existing.status = .SUCCEEDED
      · simp only [hhash, hsucceeded, ne_eq, not_true_eq_false, if_true, if_false]
        exact ⟨rfl, h⟩
      by_cases hprogress : existing.status = .RESERVED ∧
          call.now < existing.updatedAt + Time.minutes 2
      · simp only [hhash, hprogress, ne_eq, not_true_eq_false, and_self, if_true, if_false]
        exact ⟨rfl, h⟩
      -- the execution is taken over, for the change that it was reserved for
      have hplace : existing.changeId = call.intent.changeId := by
        by_contra hne
        simp only [GovernanceRepository.takesOverElsewhere, hcheck, hheld, Option.any_some, hhash,
          hsucceeded, hne, decide_true, ne_eq, not_false_eq_true, Bool.true_and, Bool.not_eq_false',
          Bool.and_eq_true, decide_eq_true_eq] at htakeover
        exact hprogress htakeover
      have hdocument : executionDocument (existing.attemptedAgain call.intent
          call.decision.decisionId call.approvalId call.now) server =
          existing.attemptedAgain call.intent call.decision.decisionId call.approvalId call.now :=
        executionDocument_eq htimes.1
      have hagain : (existing.attemptedAgain call.intent call.decision.decisionId call.approvalId
          call.now).idempotencyKey = call.key.2 := hexistingKey
      simp only [hhash, hsucceeded, hprogress, ne_eq, not_true_eq_false, if_false, Bool.false_eq_true,
        hdocument, ← hplace]
      refine ⟨rfl, h.storeExecution hinj hkey hagain (fun old hold => ?_) fun key' => ?_⟩
      · rw [hexisting] at hold
        cases hold
        rfl
      · split_ifs with heq
        · rw [heq, hid]
        · rfl

omit [Sha256] in
/-- What a report leaves as it was, and the time that it stores. -/
theorem reported_of_ok {current updated : ToolExecutionRecord} {hreserved : current.status = .RESERVED}
    {report : ExecutionReport} {tenantId changeId executionId : String}
    (h : current.reported hreserved report = .ok updated) :
    updated.changeId = current.changeId ∧ updated.idempotencyKey = current.idempotencyKey ∧
      updated.updatedAt ∈ (GovernanceOperation.write
        (.reportExecution tenantId changeId executionId report)).stampedTimes := by
  cases report with
  | completed output outputHash completedAt =>
    change (digestStr outputHash).map _ = _ at h
    cases hhash : digestStr outputHash with
    | error e =>
      rw [hhash] at h
      cases h
    | ok hash =>
      rw [hhash] at h
      cases h
      exact ⟨rfl, rfl, List.mem_singleton_self _⟩
  | failed errorCode failedAt =>
    change (nonEmptyStr errorCode).map _ = _ at h
    cases hcode : nonEmptyStr errorCode with
    | error e =>
      rw [hcode] at h
      cases h
    | ok code =>
      rw [hcode] at h
      cases h
      exact ⟨rfl, rfl, List.mem_singleton_self _⟩

theorem reportExecution (h : GovernanceMirrors keys plans repo store)
    (hinj : Set.InjOn executionId keys)
    (hdigests : ∀ key ∈ keys, isDocumentId (idempotencyDigest key) = true)
    {tenantId changeId id : String} {report : ExecutionReport} {server : Time → Time}
    (hpromised : (GovernanceOperation.write
      (.reportExecution tenantId changeId id report)).Promised server) :
    GovernanceAlike keys plans (repo.reportExecution tenantId changeId id report)
      (store.reportExecution tenantId changeId id report server) := by
  obtain ⟨hvalid, htimes⟩ := hpromised
  simp only [GovernanceOperation.documentIds, List.forall_mem_cons] at hvalid
  obtain ⟨htenant, hchange, hid, -⟩ := hvalid
  have hreference : executionReference tenantId changeId id = .ok ((tenantId, changeId), id) :=
    inChange_of_valid htenant hchange hid _
  unfold GovernanceRepository.reportExecution FirestoreGovernanceRepository.reportExecution
  cases hget : repo.executions.get? (tenantId, id) with
  | none =>
    simp only [hreference, h.executions.get?_of_none hget, FirestoreGovernanceRepository.transact,
      bind, Except.bind, throw, throwThe, MonadExceptOf.throw]
    exact ⟨rfl, h⟩
  | some current =>
    by_cases hplace : current.changeId = changeId
    swap
    · simp only [hreference, h.executions.get?_of_ne hget hplace, hplace, ne_eq, not_false_eq_true,
        if_true, FirestoreGovernanceRepository.transact, bind, Except.bind, throw, throwThe,
        MonadExceptOf.throw]
      exact ⟨rfl, h⟩
    subst hplace
    have hsome : store.executions.get? ((tenantId, current.changeId), id) = some current :=
      h.executions.get?_of_some hget
    by_cases hreserved : current.status = .RESERVED
    swap
    · simp only [hreference, hsome, hreserved, ne_eq, not_true_eq_false, if_false, dif_neg,
        not_false_eq_true, FirestoreGovernanceRepository.transact, bind, Except.bind, throw, throwThe,
        MonadExceptOf.throw]
      exact ⟨rfl, h⟩
    simp only [hreference, hsome, hreserved, ne_eq, not_true_eq_false, if_false, dif_pos,
      FirestoreGovernanceRepository.transact, bind, Except.bind, pure, Except.pure]
    cases hreported : current.reported hreserved report with
    | error e => exact ⟨rfl, h⟩
    | ok updated =>
      obtain ⟨hmem, hids⟩ := h.held tenantId id current hget
      obtain rfl := (h.ids _ id hids).1
      obtain ⟨hchangeId, hkey, htime⟩ := reported_of_ok hreported
      have hidempotency : idempotencyReference tenantId
          (idempotencyDigest (tenantId, current.idempotencyKey)) =
          .ok (tenantId, idempotencyDigest (tenantId, current.idempotencyKey)) :=
        inTenant_of_valid htenant (hdigests _ hmem) _
      have hdocument : executionDocument updated server = updated :=
        executionDocument_eq (htimes _ htime)
      simp only [Except.mapError, hidempotency, hdocument, ← hchangeId]
      refine ⟨rfl, h.storeExecution hinj hmem hkey (fun old hold => ?_) fun key' => ?_⟩
      · rw [hget] at hold
        cases hold
        exact hchangeId.symm
      · split_ifs with heq
        · rw [heq, hids]
        · rfl

/-- **One call.** Where the adapters do not part ways, corresponding stores answer alike and stay
corresponding stores. -/
theorem step (h : GovernanceMirrors keys plans repo store) (hkeys : Set.InjOn executionId keys)
    (hplans : Set.InjOn calculatePlanHash plans)
    (hdigests : ∀ key ∈ keys, isDocumentId (idempotencyDigest key) = true)
    {operation : GovernanceOperation} {server : Time → Time}
    (hpromised : operation.Promised server)
    (hkey : ∀ key, operation.reserveKey? = some key → key ∈ keys)
    (hplan : ∀ plan, operation.plan? = some plan → plan ∈ plans)
    (hnew : ∀ key, operation.auditKey? = some key → repo.audit.get? key = none)
    (hagree : operation.partsWays repo = false) :
    GovernanceAlike keys plans (operation.onMemory repo) (operation.onFirestore server store) := by
  cases operation with
  | write call =>
    cases call with
    | createApprovalRequest record plan =>
      exact (h.createApprovalRequest hplans (hplan _ rfl) hpromised hagree).answered _
    | decideApproval call => exact (h.decideApproval hpromised).answered _
    | reserveExecution call =>
      obtain ⟨happroval, htakeover⟩ := Bool.or_eq_false_iff.mp hagree
      exact (h.reserveExecution hkeys (hkey _ rfl) hpromised happroval htakeover).answered _
    | reportExecution tenantId changeId id report =>
      exact (h.reportExecution hkeys hdigests hpromised).answered _
    | recordAudit event =>
      obtain ⟨hvalid, htimes⟩ := hpromised
      simp only [GovernanceOperation.documentIds, GovernanceOperation.stampedTimes,
        List.forall_mem_cons] at hvalid htimes
      exact (h.recordAudit hvalid.1 hvalid.2.1 hvalid.2.2.1 htimes.1 (hnew _ rfl)).answered _
  | getPlan tenantId changeId planId =>
    have hvalid := hpromised.valid
    simp only [GovernanceOperation.documentIds, List.forall_mem_cons] at hvalid
    exact ⟨congrArg (Except.map _) (h.getPlan hvalid.1 hvalid.2.1 hvalid.2.2.1), h⟩
  | getApprovalRequest tenantId approvalId =>
    have hvalid := hpromised.valid
    simp only [GovernanceOperation.documentIds, List.forall_mem_cons] at hvalid
    exact ⟨congrArg (Except.map _) (h.getApprovalRequest hvalid.1 hvalid.2.1), h⟩
  | listApprovalRequests tenantId limit =>
    have hvalid := hpromised.valid
    simp only [GovernanceOperation.documentIds, List.forall_mem_cons] at hvalid
    exact ⟨congrArg (Except.map _) (h.listApprovalRequests hvalid.1 limit).symm, h⟩
  | listAudit tenantId limit =>
    have hvalid := hpromised.valid
    simp only [GovernanceOperation.documentIds, List.forall_mem_cons] at hvalid
    exact ⟨congrArg (Except.map _) (h.listAudit hvalid.1 limit).symm, h⟩

end GovernanceMirrors

/-! ## Sequences of calls -/

/-- A call, and what the server writes for the times it supplies. -/
structure ServedOperation where
  operation : GovernanceOperation
  server : Time → Time

section Runs

variable [Sha256]

def governanceOnMemory (repo : GovernanceRepository) :
    List ServedOperation → List (Except GatewayExn GovernanceAnswer)
  | [] => []
  | served :: run =>
      (served.operation.onMemory repo).1 :: governanceOnMemory (served.operation.onMemory repo).2 run

def governanceOnFirestore (store : FirestoreGovernanceRepository) :
    List ServedOperation → List (Except GatewayExn GovernanceAnswer)
  | [] => []
  | served :: run =>
      (served.operation.onFirestore served.server store).1 ::
        governanceOnFirestore (served.operation.onFirestore served.server store).2 run

/-- No call of the run uses an id under another change than the one it is stored for then. -/
def staysTogether (repo : GovernanceRepository) : List ServedOperation → Bool
  | [] => true
  | served :: run =>
      !served.operation.partsWays repo && staysTogether (served.operation.onMemory repo).2 run

/-- What the callers promise of a run: valid document ids, times that the server writes as they are,
new audit ids, and a digest that tells the keys and the plans of the run apart. -/
structure RunPromised (run : List ServedOperation) : Prop where
  calls : ∀ served ∈ run, served.operation.Promised served.server
  audit : (run.filterMap fun served => served.operation.auditKey?).Nodup
  keys : Set.InjOn executionId {key | ∃ served ∈ run, served.operation.reserveKey? = some key}
  plans : Set.InjOn calculatePlanHash {plan | ∃ served ∈ run, served.operation.plan? = some plan}

/-- A call touches the trail under the key of its own event only. -/
theorem GovernanceOperation.audit_onMemory (operation : GovernanceOperation)
    (repo : GovernanceRepository) {key : String × String} (hkey : operation.auditKey? ≠ some key) :
    (operation.onMemory repo).2.audit.get? key = repo.audit.get? key := by
  cases operation with
  | write call =>
    cases call with
    | createApprovalRequest record plan =>
      rcases repo.createApprovalRequest_cases record plan with ⟨e, h⟩ |
        ⟨_, _, -, -, -, -, -, -, h⟩ | ⟨_, -, -, -, h⟩ <;> simp only [onMemory, answered, h]
    | decideApproval call =>
      rcases repo.decideApproval_cases call with ⟨e, h⟩ | ⟨_, -, -, -, h⟩ |
        ⟨_, _, -, -, -, -, -, -, h⟩ <;> simp only [onMemory, answered, h]
    | reserveExecution call =>
      rcases repo.reserveExecution_cases call with ⟨e, h⟩ | ⟨_, _, -, -, -, -, -, h⟩ |
        ⟨_, _, -, -, -, -, -, h⟩ | ⟨_, -, -, h⟩ <;> simp only [onMemory, answered, h]
    | reportExecution tenantId changeId id report =>
      rcases repo.reportExecution_cases tenantId changeId id report with ⟨e, h⟩ |
        ⟨_, _, _, -, -, -, h⟩ <;> simp only [onMemory, answered, h]
    | recordAudit event =>
      have hother : key ≠ (event.tenantId, event.auditEventId) := fun heq =>
        hkey (congrArg some heq.symm)
      rcases repo.recordAudit_cases event with ⟨e, h⟩ | h
      · simp only [onMemory, answered, h]
      · simp only [onMemory, answered, h, Dict.get?_set_ne _ _ hother]
  | getPlan | getApprovalRequest | listApprovalRequests | listAudit => rfl

/-- Corresponding stores answer every run alike that stays together. -/
theorem GovernanceMirrors.answers {keys : Set (String × String)} {plans : Set RemediationPlan}
    {repo : GovernanceRepository} {store : FirestoreGovernanceRepository}
    (h : GovernanceMirrors keys plans repo store) (hkeys : Set.InjOn executionId keys)
    (hplans : Set.InjOn calculatePlanHash plans)
    (hdigests : ∀ key ∈ keys, isDocumentId (idempotencyDigest key) = true)
    {run : List ServedOperation}
    (hpromised : ∀ served ∈ run, served.operation.Promised served.server)
    (hreserved : ∀ served ∈ run, ∀ key, served.operation.reserveKey? = some key → key ∈ keys)
    (hplanned : ∀ served ∈ run, ∀ plan, served.operation.plan? = some plan → plan ∈ plans)
    (hfresh : (run.filterMap fun served => served.operation.auditKey?).Nodup)
    (hnew : ∀ key ∈ run.filterMap (fun served => served.operation.auditKey?),
      repo.audit.get? key = none)
    (hagree : staysTogether repo run = true) :
    governanceOnMemory repo run = governanceOnFirestore store run := by
  induction run generalizing repo store with
  | nil => rfl
  | cons served run ih =>
    rw [List.forall_mem_cons] at hpromised hreserved hplanned
    rw [staysTogether, Bool.and_eq_true, Bool.not_eq_true'] at hagree
    have hstep := h.step hkeys hplans hdigests hpromised.1 hreserved.1 hplanned.1
      (fun key hkey => hnew key (List.mem_filterMap.mpr ⟨served, List.mem_cons_self, hkey⟩)) hagree.1
    have hrest : (run.filterMap fun served => served.operation.auditKey?).Nodup ∧
        ∀ key ∈ run.filterMap (fun served => served.operation.auditKey?),
          (served.operation.onMemory repo).2.audit.get? key = none := by
      rw [List.filterMap_cons] at hfresh hnew
      cases hcall : served.operation.auditKey? with
      | none =>
        rw [hcall] at hfresh hnew
        refine ⟨hfresh, fun key hmem => ?_⟩
        rw [served.operation.audit_onMemory repo (by rw [hcall]; exact fun heq => by cases heq)]
        exact hnew key hmem
      | some used =>
        rw [hcall] at hfresh hnew
        rw [List.nodup_cons] at hfresh
        refine ⟨hfresh.2, fun key hmem => ?_⟩
        have hother : served.operation.auditKey? ≠ some key := by
          rw [hcall]
          intro heq
          cases heq
          exact hfresh.1 hmem
        rw [served.operation.audit_onMemory repo hother]
        exact hnew key (List.mem_cons_of_mem _ hmem)
    rw [governanceOnMemory, governanceOnFirestore, hstep.result, ih hstep.stores hpromised.2
      hreserved.2 hplanned.2 hrest.1 hrest.2 hagree.2]

/-- **Two adapters, one contract, as long as ids stay with their change.** A run of calls gets the
same answers and the same errors from both adapters when no call uses an approval id or takes over an
execution under another change than the one it is stored for. -/
theorem governanceAdapters_agree (run : List ServedOperation) (hpromised : RunPromised run)
    (hagree : staysTogether .empty run = true) :
    governanceOnMemory .empty run = governanceOnFirestore .empty run := by
  refine GovernanceMirrors.empty.answers hpromised.keys hpromised.plans ?_ hpromised.calls
    (fun served hmem key hkey => ⟨served, hmem, hkey⟩)
    (fun served hmem plan hplan => ⟨served, hmem, hplan⟩) hpromised.audit (fun _ _ => rfl) hagree
  -- the digest of a key is an id that its reservation builds a path from
  rintro key ⟨⟨operation, server⟩, hmem, hkey⟩
  have hvalid := (hpromised.calls _ hmem).valid
  cases operation with
  | write call =>
    cases call with
    | reserveExecution call =>
      cases hkey
      exact hvalid _ (by simp [GovernanceOperation.documentIds])
    | _ => cases hkey
  | _ => cases hkey

end Runs

/-! ### Two runs -/

/-- The class and the code of an error; the title of a `GatewayError` goes with its class. -/
def GatewayExn.classAndCode : GatewayExn → (String × String) ⊕ Exn
  | .gateway e => .inl (e.title, e.code)
  | .adapter code _ _ => .inl ("ToolAdapterError", code)
  | .raised e => .inr e

/-- The errors of a list of answers. -/
def raisedKinds (answers : List (Except GatewayExn GovernanceAnswer)) :
    List (Option ((String × String) ⊕ Exn)) :=
  answers.map fun
    | .ok _ => none
    | .error e => some e.classAndCode

namespace GovernanceAdapterDemo

/-- The plan of another change of the tenant. -/
def otherBody : ApprovalCreateRequest :=
  { Demo.approvalBody with plan := { Demo.gatewayPlan with changeId := "chg_009" } }

def event : AuditEvent :=
  ⟨"audit_001", "tenant_demo", "chg_001", "trace_001", "APPROVAL_REQUESTED", .SERVICE,
    "workflow-coordinator", "changes/chg_001", "request_approval", none, "", "", .SUCCESS,
    "Requested.", 10⟩

section

variable [Sha256]

def create (body : ApprovalCreateRequest) (hexpires : 10 < body.expiresAt) : GovernanceOperation :=
  .write (.createApprovalRequest (body.record "workflow-coordinator" 10 hexpires) body.plan)

/-- The tenant uses one approval id for two changes. -/
def reusedId : List ServedOperation :=
  [⟨create Demo.approvalBody Demo.requestedAt_lt, id⟩, ⟨create otherBody Demo.requestedAt_lt, id⟩]

theorem reusedId_valid : ∀ served ∈ reusedId, ∀ id ∈ served.operation.documentIds,
    isDocumentId id = true := by
  have hids : ∀ id ∈ ["tenant_demo", "chg_001", "chg_009", "plan_001", "approval_001"],
      isDocumentId id = true := by
    decide +kernel
  intro served hmem id hid
  apply hids
  rcases List.mem_pair.mp hmem with rfl | rfl
  · exact (show ["tenant_demo", "chg_001", "plan_001", "tenant_demo", "chg_001", "approval_001"] ⊆ _
      by decide) hid
  · exact (show ["tenant_demo", "chg_009", "plan_001", "tenant_demo", "chg_009", "approval_001"] ⊆ _
      by decide) hid

theorem reusedId_promised (hinj : Function.Injective Sha256.hexdigest) : RunPromised reusedId where
  calls served hmem := by
    have hserver : served.server = id := by
      rcases List.mem_pair.mp hmem with rfl | rfl <;> rfl
    exact ⟨reusedId_valid served hmem, fun t _ => by rw [hserver, id_eq]⟩
  audit := List.nodup_nil
  keys := by
    rintro key ⟨served, hmem, hkey⟩
    have hnone : served.operation.reserveKey? = none := by
      rcases List.mem_pair.mp hmem with rfl | rfl <;> rfl
    rw [hnone] at hkey
    cases hkey
  plans := (calculatePlanHash_injective hinj).injOn

/-- The record of the first request, and of the second. -/
def firstRecord : ApprovalRequestRecord :=
  Demo.approvalBody.record "workflow-coordinator" 10 Demo.requestedAt_lt

def secondRecord : ApprovalRequestRecord :=
  otherBody.record "workflow-coordinator" 10 Demo.requestedAt_lt

/-- The first request is stored, and the second one has its approval id. -/
theorem firstRecord_stored : ∃ repo,
    GovernanceRepository.empty.createApprovalRequest firstRecord Demo.approvalBody.plan =
      (.ok firstRecord, repo) ∧
    repo.approvalIdTaken secondRecord otherBody.plan = true := by
  refine ⟨_, GovernanceMirrors.createApprovalRequest_new rfl rfl rfl, ?_⟩
  have hplan : (otherBody.plan.tenantId, otherBody.plan.changeId, otherBody.plan.planId) ≠
      (Demo.approvalBody.plan.tenantId, Demo.approvalBody.plan.changeId,
        Demo.approvalBody.plan.planId) := by
    decide
  have hhash : calculatePlanHash otherBody.plan = secondRecord.planHash := rfl
  have hplace : firstRecord.changeId ≠ secondRecord.changeId :=
    show Demo.approvalBody.plan.changeId ≠ otherBody.plan.changeId by decide
  have hget : (GovernanceRepository.empty.approvals.set (firstRecord.tenantId, firstRecord.approvalId)
      firstRecord).get? (secondRecord.tenantId, secondRecord.approvalId) = some firstRecord :=
    Dict.get?_set_self _ _ _
  have hnone : (GovernanceRepository.empty.plans.set (Demo.approvalBody.plan.tenantId,
      Demo.approvalBody.plan.changeId, Demo.approvalBody.plan.planId) Demo.approvalBody.plan).get?
      (otherBody.plan.tenantId, otherBody.plan.changeId, otherBody.plan.planId) = none := by
    rw [Dict.get?_set_ne _ _ hplan]
    rfl
  simp only [GovernanceRepository.approvalIdTaken, hhash, hnone, hget, Option.any_none,
    Option.any_some, hplace, decide_true, ne_eq, not_false_eq_true, Bool.not_false, Bool.and_self]

theorem reusedId_answers (hinj : Function.Injective Sha256.hexdigest) :
    raisedKinds (governanceOnMemory .empty reusedId) = [none, some (.inl ("Conflict", "CONFLICT"))] ∧
      raisedKinds (governanceOnFirestore .empty reusedId) =
        [none, some (.inr (.other "Approval request indexes are inconsistent."))] := by
  have hpromised := (reusedId_promised hinj).calls
  obtain ⟨repo, haccepted, htaken⟩ := firstRecord_stored
  -- the first request is stored by both
  obtain ⟨hresult, hstores⟩ : GovernanceAlike ∅ Set.univ
      (GovernanceRepository.empty.createApprovalRequest firstRecord Demo.approvalBody.plan)
      (FirestoreGovernanceRepository.empty.createApprovalRequest firstRecord Demo.approvalBody.plan
        id) :=
    GovernanceMirrors.empty.createApprovalRequest (calculatePlanHash_injective hinj).injOn
      (Set.mem_univ _) (hpromised _ List.mem_cons_self) (Bool.and_false _)
  rw [haccepted] at hresult hstores
  -- the second has its approval id and another change
  have hvalid : ∀ id ∈ (GovernanceOperation.write (.createApprovalRequest secondRecord
      otherBody.plan)).documentIds, isDocumentId id = true :=
    (hpromised _ (List.mem_cons_of_mem _ List.mem_cons_self)).valid
  obtain ⟨hmemory, hfirestore⟩ := hstores.createApprovalRequest_taken id hvalid htaken
  constructor
  · show raisedKinds [(answered _ (GovernanceRepository.empty.createApprovalRequest firstRecord
        Demo.approvalBody.plan)).1, (answered _ ((GovernanceRepository.empty.createApprovalRequest
        firstRecord Demo.approvalBody.plan).2.createApprovalRequest secondRecord otherBody.plan)).1] = _
    rw [haccepted, hmemory]
    rfl
  · show raisedKinds [(answered _ (FirestoreGovernanceRepository.empty.createApprovalRequest
        firstRecord Demo.approvalBody.plan id)).1, (answered _
        ((FirestoreGovernanceRepository.empty.createApprovalRequest firstRecord
        Demo.approvalBody.plan id).2.createApprovalRequest secondRecord otherBody.plan id)).1] = _
    rw [hfirestore, answered, ← hresult]
    rfl

/-- A plan is approved, a tool is reserved for it and its execution is reported. -/
def carriedOut : List ServedOperation :=
  [⟨create Demo.approvalBody Demo.requestedAt_lt, id⟩, ⟨.write (.recordAudit event), id⟩,
    ⟨.write (.decideApproval (Demo.approve 20)), id⟩,
    ⟨.write (.reserveExecution (Demo.reserve true '0')), id⟩,
    ⟨.write (.reserveExecution (Demo.reserve false '0')), id⟩,
    ⟨.write (.reportExecution "tenant_demo" "chg_001"
      (executionId (Demo.reserve false '0').key) (.failed "TOOL_FAILED" 30)), id⟩,
    ⟨.getPlan "tenant_demo" "chg_001" "plan_001", id⟩,
    ⟨.listApprovalRequests "tenant_demo" 10, id⟩, ⟨.listAudit "tenant_demo" 10, id⟩]

end

end GovernanceAdapterDemo

namespace ReusedIdDemo

/-- A digest function without collisions. -/
scoped instance ownText : Sha256 := ⟨fun text => text⟩

theorem hexdigest_injective_demo : Function.Injective ownText.hexdigest := fun _ _ h => h

end ReusedIdDemo

open scoped ReusedIdDemo in
open GovernanceAdapterDemo ReusedIdDemo in
/-- With a digest that has no collisions: the tenant uses an approval id again, for another change.
One adapter reports a conflict, the other that its indexes are inconsistent. -/
theorem not_governanceAdapters_agree : Function.Injective Sha256.hexdigest ∧
    ¬ ∀ run : List ServedOperation, RunPromised run →
      raisedKinds (governanceOnMemory .empty run) =
        raisedKinds (governanceOnFirestore .empty run) := by
  refine ⟨hexdigest_injective_demo, fun h => ?_⟩
  have hsame := h reusedId (reusedId_promised hexdigest_injective_demo)
  rw [(reusedId_answers hexdigest_injective_demo).1, (reusedId_answers hexdigest_injective_demo).2]
    at hsame
  revert hsame
  decide

namespace GovernanceAdapterDemo

scoped instance digests : Sha256 := .hashlib

theorem carriedOut_valid : ∀ served ∈ carriedOut, ∀ id ∈ served.operation.documentIds,
    isDocumentId id = true := by
  decide +kernel

theorem carriedOut_keys : ∀ served ∈ carriedOut, ∀ key, served.operation.reserveKey? = some key →
    key = ("tenant_demo", "key_crm") := by
  intro served hmem key hkey
  simp only [carriedOut, List.mem_cons, List.not_mem_nil, or_false] at hmem
  rcases hmem with rfl | rfl | rfl | rfl | rfl | rfl | rfl | rfl | rfl <;> cases hkey <;> rfl

theorem carriedOut_plans : ∀ served ∈ carriedOut, ∀ plan, served.operation.plan? = some plan →
    plan = Demo.approvalBody.plan := by
  intro served hmem plan hplan
  simp only [carriedOut, List.mem_cons, List.not_mem_nil, or_false] at hmem
  rcases hmem with rfl | rfl | rfl | rfl | rfl | rfl | rfl | rfl | rfl <;> cases hplan
  rfl

theorem carriedOut_promised : RunPromised carriedOut where
  calls served hmem := by
    have hserver : served.server = id := by
      simp only [carriedOut, List.mem_cons, List.not_mem_nil, or_false] at hmem
      rcases hmem with rfl | rfl | rfl | rfl | rfl | rfl | rfl | rfl | rfl <;> rfl
    exact ⟨carriedOut_valid served hmem, fun t _ => by rw [hserver, id_eq]⟩
  audit := by decide +kernel
  keys := by
    rintro key ⟨served, hmem, hkey⟩ key' ⟨served', hmem', hkey'⟩ -
    rw [carriedOut_keys served hmem key hkey, carriedOut_keys served' hmem' key' hkey']
  plans := by
    rintro plan ⟨served, hmem, hplan⟩ plan' ⟨served', hmem', hplan'⟩ -
    rw [carriedOut_plans served hmem plan hplan, carriedOut_plans served' hmem' plan' hplan']

end GovernanceAdapterDemo

open scoped GovernanceAdapterDemo in
open GovernanceAdapterDemo in
/-- An approval, a reservation that is refused, one that is granted, and its report. -/
theorem governanceAdapters_agree_carriedOut :
    governanceOnMemory .empty carriedOut = governanceOnFirestore .empty carriedOut :=
  governanceAdapters_agree carriedOut carriedOut_promised (by decide +kernel)

end ChangeOps
