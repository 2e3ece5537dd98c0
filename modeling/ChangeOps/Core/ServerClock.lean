import ChangeOps.Core.StateMachine
import ChangeOps.Lib.Schedule
import ChangeOps.Persistence.Firestore

/-!
# ChangeOps.Core — transitions under two clocks

`WorkflowEngine._transition` over `FirestoreChangeStateRepository`: the engine reads the version of
a change and calls `StateTransitionService.transition`, which refuses to move `updated_at`
backwards. It compares a reading of the coordinator's clock with the stored `updated_at`, and that
time was written at the last commit by the database, from a clock of its own.

So each transition depends on the clocks of two machines: it is refused while the coordinator's
clock has not reached the time that the server gave the change before (`unhindered_iff`).
-/

namespace ChangeOps

/-- The coordinator's clock and identifiers, and the clock of the database. -/
structure Clocks extends Runtime where
  server : Nat → Time

/-- The database, and how far the sources have been read. `stamps` notes, last first, when the
server has committed which change. -/
structure FirestoreWorld where
  changes : FirestoreChangeStateRepository
  tick : Nat
  uuid : Nat
  commits : Nat
  stamps : List ((String × String) × Time)

namespace FirestoreWorld

/-- The server's time at the last commit of a change. -/
def lastStamp (w : FirestoreWorld) (key : String × String) : Option Time :=
  (w.stamps.find? fun stamp => stamp.1 = key).map Prod.snd

/-- Every stored change has the time of its last commit. -/
def Stamped (w : FirestoreWorld) : Prop :=
  ∀ key document, w.changes.changes.get? key = some document →
    w.lastStamp key = some document.updatedAt

end FirestoreWorld

/-! ## The service -/

namespace OverFirestore

section Service

variable [Sha256] (clocks : Clocks)

/-- `self._clock()`. -/
def now : Prog FirestoreWorld Exn Time :=
  .atomic fun w => (.ok (clocks.clock w.tick), { w with tick := w.tick + 1 })

/-- `uuid4().hex`. -/
def uuid4Hex : Prog FirestoreWorld Exn String :=
  .atomic fun w => (.ok (clocks.uuid4 w.uuid), { w with uuid := w.uuid + 1 })

def getChange (tenantId changeId : String) : Prog FirestoreWorld Exn ChangeRecord :=
  .atomic fun w => (w.changes.get tenantId changeId, w)

def recordAudit (auditEvent : AuditEvent) : Prog FirestoreWorld Exn Unit :=
  .atomic fun w =>
    let (outcome, changes) := w.changes.recordAudit auditEvent fun _ => clocks.server w.commits
    (outcome, { w with changes := changes, commits := w.commits + 1 })

/-- The commit of a change, which the server gives its own time. -/
def commitTransition (change : ChangeRecord) (auditEvent : AuditEvent) (expectedVersion : Nat) :
    Prog FirestoreWorld Exn Unit :=
  .atomic fun w =>
    let stamp := clocks.server w.commits
    match w.changes.commitTransition change auditEvent expectedVersion fun _ => stamp with
    | (.ok (), changes) =>
        (.ok (), { w with
          changes := changes
          commits := w.commits + 1
          stamps := ((change.tenantId, change.changeId), stamp) :: w.stamps })
    | (.error e, changes) => (.error e, { w with changes := changes, commits := w.commits + 1 })

/-- `_build_audit_event`. -/
def buildAuditEvent (call : TransitionCall) (current : ChangeRecord) (outputHash : String)
    (status : AuditStatus) (createdAt : Time) : Prog FirestoreWorld Exn AuditEvent := do
  let hex ← uuid4Hex clocks
  return call.auditEvent current ("audit_" ++ hex) outputHash status createdAt

def rejectTransition (call : TransitionCall) (current : ChangeRecord) (transitionedAt : Time) :
    Prog FirestoreWorld Exn ChangeRecord := do
  let auditEvent ← buildAuditEvent clocks call current
    (sha256Digest (.obj [("reason", .str "invalid_transition")])) .REJECTED transitionedAt
  recordAudit clocks auditEvent
  .raise (.invalidStateTransition current.status call.target auditEvent.auditEventId)

def commitUpdated (call : TransitionCall) (current updated : ChangeRecord)
    (transitionedAt : Time) : Prog FirestoreWorld Exn ChangeRecord := do
  let auditEvent ← buildAuditEvent clocks call current (sha256Digest updated.modelDump) .SUCCESS
    transitionedAt
  (commitTransition clocks updated auditEvent call.expectedVersion).tryCatch fun
    | .optimisticConcurrency changeId expectedVersion actualVersion => do
        recordAudit clocks (call.conflictEvent current auditEvent expectedVersion actualVersion)
        .raise (.optimisticConcurrency changeId expectedVersion actualVersion)
    | e => .raise e
  return updated

/-- What the service raises when its clock is behind. -/
def clockRejection : Exn :=
  .valueError "State transition clock cannot move updated_at backwards."

/-- `StateTransitionService.transition`. -/
def transition (call : TransitionCall) : Prog FirestoreWorld Exn ChangeRecord := do
  let current ← getChange call.tenantId call.changeId
  let transitionedAt ← now clocks
  if h : transitionedAt < current.updatedAt then
    .raise clockRejection
  else if call.recordUpdates.unsupported ≠ [] then
    .raise (.valueError ("Unsupported transition record updates: " ++
      ", ".intercalate (call.recordUpdates.unsupported.insertionSort (· ≤ ·))))
  else if canTransition current.status call.target then
    commitUpdated clocks call current (call.updated current transitionedAt h) transitionedAt
  else
    rejectTransition clocks call current transitionedAt

end Service

/-- The arguments of `WorkflowEngine._transition`; of the record it reads these three fields. -/
structure TransitionRequest where
  tenantId : String
  changeId : String
  traceId : String
  target : WorkflowState
  recordUpdates : RecordUpdates := {}

/-- `WorkflowEngine._transition`: the version that the service expects is the one just read. -/
def engineTransition [Sha256] (clocks : Clocks) (request : TransitionRequest) :
    Prog FirestoreWorld Exn ChangeRecord := do
  let current ← getChange request.tenantId request.changeId
  transition clocks
    { tenantId := request.tenantId
      changeId := request.changeId
      target := request.target
      expectedVersion := current.version
      traceId := request.traceId
      actorType := .SERVICE
      actorId := "workflow-coordinator"
      recordUpdates := request.recordUpdates }

/-! ## Tame programs -/

/-- A program that raises anything but the rejection by the clock, and keeps the stamps true. -/
structure Tame {α : Type} (p : Prog FirestoreWorld Exn α) : Prop where
  silent : ∀ w, (p.run w).1 ≠ .error clockRejection
  stamped : ∀ w, w.Stamped → (p.run w).2.Stamped

namespace Tame

variable {α β : Type}

theorem ret (a : α) : Tame (.ret a) where
  silent _ heq := by cases heq
  stamped _ hw := hw

theorem raise {e : Exn} (h : e ≠ clockRejection) : Tame (.raise e : Prog FirestoreWorld Exn α) where
  silent _ heq := h (Except.error.inj heq)
  stamped _ hw := hw

theorem bind {p : Prog FirestoreWorld Exn α} {f : α → Prog FirestoreWorld Exn β} (h : Tame p)
    (hf : ∀ a, Tame (f a)) : Tame (p.bind f) := by
  constructor
  · intro w
    have hne := h.silent w
    cases hrun : p.run w with
    | mk outcome w' =>
      rw [hrun] at hne
      cases outcome with
      | ok a =>
        rw [Prog.run_bind_ok hrun]
        exact (hf a).silent w'
      | error e =>
        rw [Prog.run_bind_error hrun]
        exact fun heq => hne (by cases heq; rfl)
  · intro w hw
    have hw' := h.stamped w hw
    cases hrun : p.run w with
    | mk outcome w' =>
      rw [hrun] at hw'
      cases outcome with
      | ok a =>
        rw [Prog.run_bind_ok hrun]
        exact (hf a).stamped w' hw'
      | error e =>
        rw [Prog.run_bind_error hrun]
        exact hw'

/-- A handler is run after what the program has raised, which is not the rejection. -/
theorem tryCatch {p : Prog FirestoreWorld Exn α} {f : Exn → Prog FirestoreWorld Exn α}
    (h : Tame p) (hf : ∀ e, e ≠ clockRejection → Tame (f e)) : Tame (p.tryCatch f) := by
  constructor
  · intro w
    have hne := h.silent w
    rw [Prog.tryCatch, Prog.run_andThen]
    cases hrun : p.run w with
    | mk outcome w' =>
      rw [hrun] at hne
      cases outcome with
      | ok a => exact fun heq => by cases heq
      | error e => exact (hf e fun heq => hne (by rw [heq])).silent w'
  · intro w hw
    have hne := h.silent w
    have hw' := h.stamped w hw
    rw [Prog.tryCatch, Prog.run_andThen]
    cases hrun : p.run w with
    | mk outcome w' =>
      rw [hrun] at hne hw'
      cases outcome with
      | ok a => exact hw'
      | error e => exact (hf e fun heq => hne (by rw [heq])).stamped w' hw'

theorem atomic {f : FirestoreWorld → Except Exn α × FirestoreWorld}
    (hsilent : ∀ w, (f w).1 ≠ .error clockRejection)
    (hstamped : ∀ w, w.Stamped → (f w).2.Stamped) : Tame (Prog.atomic f) := by
  constructor <;> intro w
  · rw [Prog.run_atomic]
    exact hsilent w
  · rw [Prog.run_atomic]
    exact hstamped w

end Tame

/-! ### The repository never raises what the service raises for its clock -/

theorem bind_ne_error {α β : Type} {e : Exn} {x : Except Exn α} {f : α → Except Exn β}
    (hx : x ≠ .error e) (hf : ∀ a, f a ≠ .error e) : (x >>= f) ≠ .error e := by
  cases x with
  | error e' => exact fun heq => hx (by cases heq; rfl)
  | ok a => exact hf a

section Repository

variable (repo : FirestoreChangeStateRepository)

theorem commit_ne {writes : Except Exn FirestoreChangeStateRepository}
    (h : writes ≠ .error clockRejection) : (repo.commit writes).1 ≠ .error clockRejection := by
  cases writes with
  | error e => exact fun heq => h (by cases heq; rfl)
  | ok written => exact fun heq => by cases heq

theorem validateDocumentId_ne (value fieldName : String) :
    validateDocumentId value fieldName ≠ .error clockRejection := by
  unfold validateDocumentId
  split_ifs <;> simp [clockRejection]

theorem changeReference_ne (tenantId changeId : String) :
    FirestoreChangeStateRepository.changeReference tenantId changeId ≠ .error clockRejection :=
  bind_ne_error (validateDocumentId_ne _ _) fun _ =>
    bind_ne_error (validateDocumentId_ne _ _) fun _ heq => by cases heq

theorem auditReference_ne (tenantId changeId auditEventId : String) :
    FirestoreChangeStateRepository.auditReference tenantId changeId auditEventId ≠
      .error clockRejection :=
  bind_ne_error (validateDocumentId_ne _ _) fun _ =>
    bind_ne_error (changeReference_ne _ _) fun _ heq => by cases heq

theorem auditIndexReference_ne (tenantId auditEventId : String) :
    FirestoreChangeStateRepository.auditIndexReference tenantId auditEventId ≠
      .error clockRejection :=
  bind_ne_error (validateDocumentId_ne _ _) fun _ =>
    bind_ne_error (validateDocumentId_ne _ _) fun _ heq => by cases heq

theorem snapshot_ne (tenantId changeId : String) :
    repo.snapshot tenantId changeId ≠ .error clockRejection := by
  unfold FirestoreChangeStateRepository.snapshot
  split <;> simp [clockRejection]

theorem ensureNewAudit_ne (reference : (String × String) × String) (event : AuditEvent) :
    repo.ensureNewAudit reference event ≠ .error clockRejection := by
  unfold FirestoreChangeStateRepository.ensureNewAudit
  split_ifs <;> simp [clockRejection]

theorem createAudit_ne (reference : (String × String) × String) (index : String × String)
    (document : AuditEvent) : repo.createAudit reference index document ≠ .error clockRejection := by
  unfold FirestoreChangeStateRepository.createAudit
  split <;> simp [clockRejection, FirestoreChangeStateRepository.alreadyExists]

theorem modelValidate_ne (document : ChangeDocument) :
    document.modelValidate ≠ .error clockRejection := by
  unfold ChangeDocument.modelValidate
  split_ifs <;> simp [clockRejection]

theorem recordAudit_ne (event : AuditEvent) (server : Time → Time) :
    (repo.recordAudit event server).1 ≠ .error clockRejection := by
  refine commit_ne repo ?_
  refine bind_ne_error (changeReference_ne _ _) fun _ => ?_
  refine bind_ne_error (auditReference_ne _ _ _) fun _ => ?_
  refine bind_ne_error (auditIndexReference_ne _ _) fun _ => ?_
  refine bind_ne_error (snapshot_ne repo _ _) fun _ => ?_
  refine bind_ne_error (ensureNewAudit_ne repo _ _) fun _ => ?_
  exact createAudit_ne repo _ _ _

theorem commitTransition_ne (change : ChangeRecord) (event : AuditEvent) (expectedVersion : Nat)
    (server : Time → Time) :
    (repo.commitTransition change event expectedVersion server).1 ≠ .error clockRejection := by
  have hscope : FirestoreChangeStateRepository.validateAuditScope change event ≠
      .error clockRejection := by
    unfold FirestoreChangeStateRepository.validateAuditScope
    split_ifs <;> simp [clockRejection]
  refine commit_ne repo ?_
  refine bind_ne_error hscope fun _ => ?_
  refine bind_ne_error (changeReference_ne _ _) fun _ => ?_
  refine bind_ne_error (auditReference_ne _ _ _) fun _ => ?_
  refine bind_ne_error (auditIndexReference_ne _ _) fun _ => ?_
  refine bind_ne_error (snapshot_ne repo _ _) fun _ => ?_
  refine bind_ne_error (ensureNewAudit_ne repo _ _) fun _ => ?_
  refine bind_ne_error (modelValidate_ne _) fun current => ?_
  dsimp only
  split
  · exact fun heq => by cases heq
  split
  · exact fun heq => by cases heq
  · exact createAudit_ne _ _ _ _

end Repository

/-! ## The service is tame, its clock apart -/

section Service

variable (clocks : Clocks)

theorem tame_recordAudit (event : AuditEvent) : Tame (recordAudit clocks event) := by
  refine .atomic (fun w => recordAudit_ne w.changes event _) fun w hw => ?_
  intro key document hget
  change (w.changes.recordAudit event _).2.changes.get? key = some document at hget
  rw [FirestoreChangeStateRepository.changes_recordAudit] at hget
  exact hw key document hget

/-- The commit notes the time that it writes. -/
theorem tame_commitTransition (change : ChangeRecord) (event : AuditEvent)
    (expectedVersion : Nat) : Tame (commitTransition clocks change event expectedVersion) := by
  refine .atomic (fun w => ?_) fun w hw => ?_
  · have hne := commitTransition_ne w.changes change event expectedVersion
      fun _ => clocks.server w.commits
    cases hcommit : w.changes.commitTransition change event expectedVersion
        fun _ => clocks.server w.commits with
    | mk outcome changes =>
      rw [hcommit] at hne
      simp only [hcommit]
      cases outcome with
      | ok u => exact fun heq => by cases heq
      | error e => exact fun heq => hne (by cases heq; rfl)
  · rcases w.changes.changes_commitTransition (fun _ => clocks.server w.commits) change event
        expectedVersion with ⟨e, hcommit⟩ | ⟨changes, hcommit, hset⟩
    · simp only [hcommit]
      exact hw
    · simp only [hcommit]
      intro key document hget
      change changes.changes.get? key = some document at hget
      rw [hset, Dict.get?_set] at hget
      show (((_, _) :: w.stamps).find? _).map Prod.snd = _
      rw [List.find?_cons]
      by_cases hkey : key = (change.tenantId, change.changeId)
      · rw [if_pos hkey] at hget
        cases hget
        simp [hkey, changeDocument]
      · rw [if_neg hkey] at hget
        simp only [Ne.symm hkey, decide_false]
        exact hw key document hget

variable [Sha256]

theorem tame_buildAuditEvent (call : TransitionCall) (current : ChangeRecord) (outputHash : String)
    (status : AuditStatus) (createdAt : Time) :
    Tame (buildAuditEvent clocks call current outputHash status createdAt) :=
  (Tame.atomic (fun _ heq => by cases heq) fun _ hw => hw).bind fun _ => .ret _

theorem tame_rejectTransition (call : TransitionCall) (current : ChangeRecord)
    (transitionedAt : Time) : Tame (rejectTransition clocks call current transitionedAt) := by
  refine (tame_buildAuditEvent clocks call current _ _ _).bind fun event => ?_
  refine (tame_recordAudit clocks event).bind fun _ => ?_
  exact .raise (by simp [clockRejection])

theorem tame_commitUpdated (call : TransitionCall) (current updated : ChangeRecord)
    (transitionedAt : Time) : Tame (commitUpdated clocks call current updated transitionedAt) := by
  refine (tame_buildAuditEvent clocks call current _ _ _).bind fun event => ?_
  refine ((tame_commitTransition clocks updated event _).tryCatch fun e he => ?_).bind fun _ => .ret _
  split
  · refine (tame_recordAudit clocks _).bind fun _ => ?_
    exact .raise (by simp [clockRejection])
  · exact .raise he

end Service

/-! ## The engine's transition -/

section Engine

variable [Sha256] (clocks : Clocks) {request : TransitionRequest} {w : FirestoreWorld}

/-- The call of the service that the engine makes of a request. -/
def TransitionRequest.call (request : TransitionRequest) (current : ChangeRecord) : TransitionCall :=
  { tenantId := request.tenantId
    changeId := request.changeId
    target := request.target
    expectedVersion := current.version
    traceId := request.traceId
    actorType := .SERVICE
    actorId := "workflow-coordinator"
    recordUpdates := request.recordUpdates }

omit [Sha256] in
/-- The other message of the service begins with another letter. -/
theorem unsupported_ne (names : String) :
    Exn.valueError ("Unsupported transition record updates: " ++ names) ≠ clockRejection := by
  intro heq
  have htext := congrArg (fun text : String => text.toList.head?) (Exn.valueError.inj heq)
  have hfirst : "Unsupported transition record updates: ".toList.head? = some 'U' := by decide
  simp only [String.toList_append, List.head?_append, hfirst, Option.some_or] at htext
  exact absurd htext (by decide)

/-- Once the change is read, the service has one look at the clock and goes on. -/
theorem run_engineTransition {current : ChangeRecord}
    (hget : w.changes.get request.tenantId request.changeId = .ok current) :
    ∃ rest : Prog FirestoreWorld Exn ChangeRecord,
      (engineTransition clocks request).run w = rest.run { w with tick := w.tick + 1 } ∧
      (clocks.clock w.tick < current.updatedAt → rest = .raise clockRejection) ∧
      (¬ clocks.clock w.tick < current.updatedAt → Tame rest) := by
  have hread : (getChange request.tenantId request.changeId).run w = (.ok current, w) := by
    rw [getChange, Prog.run_atomic, hget]
  have hnow : (now clocks).run w = (.ok (clocks.clock w.tick), { w with tick := w.tick + 1 }) := by
    rw [now, Prog.run_atomic]
  refine ⟨if h : clocks.clock w.tick < current.updatedAt then .raise clockRejection
    else if request.recordUpdates.unsupported ≠ [] then
      .raise (.valueError ("Unsupported transition record updates: " ++
        ", ".intercalate (request.recordUpdates.unsupported.insertionSort (· ≤ ·))))
    else if canTransition current.status request.target then
      commitUpdated clocks (request.call current) current
        ((request.call current).updated current (clocks.clock w.tick) h) (clocks.clock w.tick)
    else rejectTransition clocks (request.call current) current (clocks.clock w.tick), ?_, ?_, ?_⟩
  · unfold engineTransition transition
    simp only [Prog.bind_eq_bind]
    rw [Prog.run_bind_ok hread, Prog.run_bind_ok hread, Prog.run_bind_ok hnow]
    rfl
  · intro hlate
    rw [dif_pos hlate]
  · intro hpunctual
    rw [dif_neg hpunctual]
    split_ifs
    · exact .raise (unsupported_ne _)
    · exact tame_commitUpdated clocks _ _ _ _
    · exact tame_rejectTransition clocks _ _ _

/-- A transition keeps the stamps true, however it ends. -/
theorem stamped_engineTransition (hw : w.Stamped) :
    ((engineTransition clocks request).run w).2.Stamped := by
  cases hget : w.changes.get request.tenantId request.changeId with
  | error e =>
    have hread : (getChange request.tenantId request.changeId).run w = (.error e, w) := by
      rw [getChange, Prog.run_atomic, hget]
    rw [engineTransition, Prog.bind_eq_bind, Prog.run_bind_error hread]
    exact hw
  | ok current =>
    obtain ⟨rest, hrun, hlate, hpunctual⟩ := run_engineTransition clocks hget
    rw [hrun]
    by_cases h : clocks.clock w.tick < current.updatedAt
    · rw [hlate h]
      exact hw
    · exact (hpunctual h).stamped _ hw

/-! ## Sequences of transitions -/

/-- The states in which a sequence of transitions finds the database, each with its request. -/
def visits : FirestoreWorld → List TransitionRequest → List (FirestoreWorld × TransitionRequest)
  | _, [] => []
  | w, request :: requests =>
      (w, request) :: visits ((engineTransition clocks request).run w).2 requests

theorem stamped_of_visits {requests : List TransitionRequest} (hw : w.Stamped) :
    ∀ visit ∈ visits clocks w requests, visit.1.Stamped := by
  induction requests generalizing w with
  | nil => exact fun _ hmem => by cases hmem
  | cons request requests ih =>
    intro visit hmem
    rcases List.mem_cons.mp hmem with rfl | hrest
    · exact hw
    · exact ih (stamped_engineTransition clocks hw) visit hrest

/-- The edge is in the graph; the version is the one that the engine has just read. -/
def Legal (w : FirestoreWorld) (request : TransitionRequest) : Prop :=
  ∃ current, w.changes.get request.tenantId request.changeId = .ok current ∧
    canTransition current.status request.target = true

omit [Sha256] in
/-- The time of a change that is read is the time of its last commit. -/
theorem lastStamp_of_get (hw : w.Stamped) {tenantId changeId : String} {current : ChangeRecord}
    (hget : w.changes.get tenantId changeId = .ok current) :
    w.lastStamp (tenantId, changeId) = some current.updatedAt := by
  obtain ⟨reference, hreference, hget⟩ := InMemoryChangeStateRepository.bind_eq_ok hget
  rw [FirestoreChangeStateRepository.changeReference_of_ok hreference] at hget
  obtain ⟨document, hsnapshot, hvalid⟩ := InMemoryChangeStateRepository.bind_eq_ok hget
  unfold FirestoreChangeStateRepository.snapshot at hsnapshot
  split at hsnapshot
  next stored hstored =>
    cases hsnapshot
    rw [hw _ _ hstored]
    -- validation keeps the stored time
    unfold ChangeDocument.modelValidate at hvalid
    split_ifs at hvalid
    cases hvalid
    rfl
  next => cases hsnapshot

/-- One transition is refused for the clock exactly when the clock has not reached the time of the
last commit. -/
theorem refused_iff (hw : w.Stamped) (hlegal : Legal w request) :
    ((engineTransition clocks request).run w).1 = .error clockRejection ↔
      ∃ stamp, w.lastStamp (request.tenantId, request.changeId) = some stamp ∧
        clocks.clock w.tick < stamp := by
  obtain ⟨current, hget, -⟩ := hlegal
  have hstamp := lastStamp_of_get hw hget
  obtain ⟨rest, hrun, hlate, hpunctual⟩ := run_engineTransition clocks hget
  rw [hrun, hstamp]
  constructor
  · intro herror
    refine ⟨current.updatedAt, rfl, ?_⟩
    by_contra h
    exact (hpunctual h).silent _ herror
  · rintro ⟨stamp, heq, h⟩
    cases heq
    rw [hlate h]
    rfl

/-- **Two clocks.** In a sequence of transitions no legal one is refused for the coordinator's
clock, if and only if that clock has reached, at each legal one, the time that the server has given
the change before. -/
theorem unhindered_iff (hw : w.Stamped) (requests : List TransitionRequest) :
    (∀ visit ∈ visits clocks w requests, Legal visit.1 visit.2 →
      ((engineTransition clocks visit.2).run visit.1).1 ≠ .error clockRejection) ↔
    (∀ visit ∈ visits clocks w requests, Legal visit.1 visit.2 →
      ∀ stamp, visit.1.lastStamp (visit.2.tenantId, visit.2.changeId) = some stamp →
        stamp ≤ clocks.clock visit.1.tick) := by
  have hstamped : ∀ visit ∈ visits clocks w requests, visit.1.Stamped :=
    stamped_of_visits clocks hw
  constructor
  · intro hunhindered visit hmem hlegal stamp hstamp
    by_contra hlate
    refine hunhindered visit hmem hlegal ((refused_iff clocks (hstamped visit hmem) hlegal).mpr ?_)
    exact ⟨stamp, hstamp, Nat.lt_of_not_le hlate⟩
  · intro hpunctual visit hmem hlegal herror
    obtain ⟨stamp, hstamp, hlate⟩ := (refused_iff clocks (hstamped visit hmem) hlegal).mp herror
    exact absurd (hpunctual visit hmem hlegal stamp hstamp) (Nat.not_le_of_lt hlate)

end Engine

namespace Demo

scoped instance digests : Sha256 := .hashlib

/-- A change received at time 10. -/
def received : ChangeDocument where
  changeId := "chg_001"
  tenantId := "tenant_demo"
  eventId := "event_001"
  changeType := "api_version_change"
  title := "Billing API v2"
  description := "The billing API moves to version 2."
  source := ⟨"github", "42", "https://example.test/42"⟩
  environment := .SANDBOX
  status := .RECEIVED
  riskLevel := .UNKNOWN
  currentPhase := .RECEIVED
  workflowExecutionId := none
  planVersion := 0
  planHash := none
  createdAt := 10
  updatedAt := 10
  createdBy := "event-gateway"
  version := 1

def world : FirestoreWorld where
  changes := { FirestoreChangeStateRepository.empty with
    changes := Dict.empty.set ("tenant_demo", "chg_001") received }
  tick := 0
  uuid := 0
  commits := 0
  stamps := [(("tenant_demo", "chg_001"), 10)]

theorem stamped_world : world.Stamped := by
  intro key document hget
  change (Dict.empty.set ("tenant_demo", "chg_001") received).get? key = some document at hget
  rw [Dict.get?_set] at hget
  split_ifs at hget with hkey
  · cases hget
    rw [hkey]
    rfl
  · cases hget

/-- A coordinator whose clock starts at 10, and a server that is `ahead` of it. -/
def clocks (ahead : Time) : Clocks where
  clock n := 10 + n
  uuid4 n := String.ofList (List.replicate n 'a')
  server n := 10 + n + ahead

def screen : TransitionRequest := ⟨"tenant_demo", "chg_001", "trace_001", .SCREENING, {}⟩

def analyze : TransitionRequest := ⟨"tenant_demo", "chg_001", "trace_001", .ANALYZING, {}⟩

end Demo

open OverFirestore.Demo in
/-- Clocks that agree. -/
theorem unhindered_together :
    world.Stamped ∧
      ∀ visit ∈ visits (clocks 0) world [screen, analyze], Legal visit.1 visit.2 →
        ((engineTransition (clocks 0) visit.2).run visit.1).1 ≠ .error clockRejection := by
  refine ⟨stamped_world, (unhindered_iff (clocks 0) stamped_world [screen, analyze]).mpr ?_⟩
  have hpunctual : ∀ visit ∈ visits (clocks 0) world [screen, analyze],
      ∀ stamp ∈ visit.1.lastStamp (visit.2.tenantId, visit.2.changeId),
        stamp ≤ (clocks 0).clock visit.1.tick := by
    decide +kernel
  exact fun visit hmem _ => hpunctual visit hmem

open OverFirestore.Demo in
/-- A server that is a little ahead: the second transition of the change is refused. -/
theorem not_unhindered :
    ¬ ∀ [Sha256] (clocks : Clocks), (∀ m n, m ≤ n → clocks.clock m ≤ clocks.clock n) →
      (∀ m n, m ≤ n → clocks.server m ≤ clocks.server n) →
      ∀ w : FirestoreWorld, w.Stamped → ∀ requests, ∀ visit ∈ visits clocks w requests,
        Legal visit.1 visit.2 →
          ((engineTransition clocks visit.2).run visit.1).1 ≠ .error clockRejection := by
  intro h
  have hclock : ∀ m n, m ≤ n → (clocks 60).clock m ≤ (clocks 60).clock n := by
    intro m n hle
    show 10 + m ≤ 10 + n
    omega
  have hserver : ∀ m n, m ≤ n → (clocks 60).server m ≤ (clocks 60).server n := by
    intro m n hle
    show 10 + m + 60 ≤ 10 + n + 60
    omega
  have hsecond := h (clocks 60) hclock hserver world stamped_world [screen, analyze]
    (((engineTransition (clocks 60) screen).run world).2, analyze) (by simp [visits])
  have hlegal : Legal ((engineTransition (clocks 60) screen).run world).2 analyze := by
    have hany : (((engineTransition (clocks 60) screen).run world).2.changes.get "tenant_demo"
        "chg_001").toOption.any (fun current => canTransition current.status .ANALYZING) = true := by
      decide +kernel
    obtain ⟨current, hget, hedge⟩ := Option.any_eq_true _ _ |>.mp hany
    refine ⟨current, ?_, hedge⟩
    show ((engineTransition (clocks 60) screen).run world).2.changes.get "tenant_demo" "chg_001" = _
    cases hread : ((engineTransition (clocks 60) screen).run world).2.changes.get "tenant_demo"
        "chg_001" with
    | error e =>
      rw [hread] at hget
      cases hget
    | ok stored =>
      rw [hread] at hget
      cases hget
      rfl
  exact hsecond hlegal (by decide +kernel)

end OverFirestore

end ChangeOps
