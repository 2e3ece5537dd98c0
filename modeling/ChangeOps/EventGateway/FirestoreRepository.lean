import ChangeOps.EventGateway.Repository
import ChangeOps.Persistence.Firestore

/-!
# ChangeOps.EventGateway — the Firestore inbox

`FirestoreEventInboxRepository` (`changeops_event_gateway/firestore_repository.py`) beside
`InMemoryEventInboxRepository`. A record lies at `processed_events/{key}` of its tenant, with the times
of the commits in place of `SERVER_TIMESTAMP`.

Whether a reservation may be taken over depends on its age, the caller's time less the stored one. In
memory both come from the callers' clock; in the database the stored time is the server's. So the two
repositories answer alike exactly as long as the two clocks agree about the ages
(`inboxes_agree_iff`). Clocks that are never further apart than `skew` agree about every reservation
that is not asked for within `skew` of its thirty seconds.
-/

namespace ChangeOps

/-! ## The repository -/

/-- `_document_id`. -/
def inboxDocumentId (value field : String) : Except EventExn String :=
  if isDocumentId value then .ok value
  else .error (.other ("Invalid Firestore " ++ field ++ " document identifier."))

/-- `_reference`. -/
def inboxReference (tenantId key : String) : Except EventExn (String × String) := do
  let tenantId ← inboxDocumentId tenantId "tenant_id"
  let key ← inboxDocumentId key "event_key"
  return (tenantId, key)

/-- The document of a record, which reads back as the record with these times. -/
def EventInboxRecord.stamped (record : EventInboxRecord) (createdAt updatedAt : Time) :
    EventInboxRecord :=
  { record with createdAt := createdAt, updatedAt := updatedAt }

/-- The collections `processed_events` of the tenants. -/
structure FirestoreEventInboxRepository where
  processedEvents : Dict (String × String) EventInboxRecord

namespace FirestoreEventInboxRepository

/-- A transaction raises and writes nothing, or returns with everything written. -/
def transact {α : Type} (repo : FirestoreEventInboxRepository)
    (body : Except EventExn (α × FirestoreEventInboxRepository)) :
    Except EventExn α × FirestoreEventInboxRepository :=
  match body with
  | .error e => (.error e, repo)
  | .ok (result, written) => (.ok result, written)

/-- `accept`; `server` is the time of the commit. -/
def accept [Sha256] (event : ChangeEvent) (changeId : String) (now server : Time)
    (repo : FirestoreEventInboxRepository) :
    Except EventExn InboxAcceptance × FirestoreEventInboxRepository :=
  repo.transact do
    let reference ← inboxReference event.tenantId (eventKey event)
    let created := newInboxRecord event changeId now
    match repo.processedEvents.get? reference with
    | some existing =>
        if existing.inputHash ≠ created.inputHash then throw (.gateway eventConflictError)
        else return (⟨existing, true⟩, repo)
    | none =>
        return (⟨created, false⟩,
          ⟨repo.processedEvents.set reference (created.stamped server server)⟩)

/-- `reserve_publish`: the stored time is compared with the caller's. -/
def reservePublish (tenantId key : String) (now server : Time) (repo : FirestoreEventInboxRepository) :
    Except EventExn (Option EventInboxRecord) × FirestoreEventInboxRepository :=
  repo.transact do
    let reference ← inboxReference tenantId key
    match repo.processedEvents.get? reference with
    | none => throw (.other "Event inbox record disappeared before publication.")
    | some current =>
        if current.status = .PUBLISHED then return (none, repo)
        else if current.status = .PUBLISHING ∧ now < current.updatedAt + Time.seconds 30 then
          return (none, repo)
        else
          let updated := current.reserved now
          return (some updated,
            ⟨repo.processedEvents.set reference (updated.stamped updated.createdAt server)⟩)

/-- `_finish`. -/
def finish (tenantId key : String) (expectedVersion : Nat) (status : InboxStatus)
    (messageId errorCode : Option String) (now server : Time) (repo : FirestoreEventInboxRepository) :
    Except EventExn EventInboxRecord × FirestoreEventInboxRepository :=
  repo.transact do
    let reference ← inboxReference tenantId key
    match repo.processedEvents.get? reference with
    | none => throw (.other "Event inbox record disappeared during publication.")
    | some current =>
        if current.version ≠ expectedVersion ∨ current.status ≠ .PUBLISHING then
          throw (.other "Event publish reservation is stale.")
        else match nonEmptyStrOrNone messageId, nonEmptyStrOrNone errorCode with
          | .ok messageId, .ok errorCode =>
              let updated := current.finished status messageId errorCode now
              return (updated,
                ⟨repo.processedEvents.set reference (updated.stamped updated.createdAt server)⟩)
          | _, _ => throw (.other "ValidationError")

def markPublished (tenantId key : String) (expectedVersion : Nat) (messageId : String)
    (now server : Time) (repo : FirestoreEventInboxRepository) :
    Except EventExn EventInboxRecord × FirestoreEventInboxRepository :=
  repo.finish tenantId key expectedVersion .PUBLISHED (some messageId) none now server

def markPublishFailed (tenantId key : String) (expectedVersion : Nat) (errorCode : String)
    (now server : Time) (repo : FirestoreEventInboxRepository) :
    Except EventExn EventInboxRecord × FirestoreEventInboxRepository :=
  repo.finish tenantId key expectedVersion .PUBLISH_FAILED none (some errorCode) now server

end FirestoreEventInboxRepository

/-! ## The contract -/

/-- A call of `EventInboxRepository`. -/
inductive InboxOperation where
  | accept (event : ChangeEvent) (changeId : String)
  | reservePublish (tenantId key : String)
  | markPublished (tenantId key : String) (expectedVersion : Nat) (messageId : String)
  | markPublishFailed (tenantId key : String) (expectedVersion : Nat) (errorCode : String)

/-- What a call returns. -/
inductive InboxAnswer where
  | acceptance (acceptance : InboxAcceptance)
  | reservation (record? : Option EventInboxRecord)
  | record (record : EventInboxRecord)

/-- A call with the caller's time and the time of its commit. -/
structure TimedInboxCall where
  operation : InboxOperation
  now : Time
  server : Time

/-- A record without the times that the server supplies. -/
def EventInboxRecord.timeless (record : EventInboxRecord) : EventInboxRecord := record.stamped 0 0

def InboxAnswer.timeless : InboxAnswer → InboxAnswer
  | .acceptance accepted => .acceptance ⟨accepted.record.timeless, accepted.replayed⟩
  | .reservation granted? => .reservation (granted?.map EventInboxRecord.timeless)
  | .record stored => .record stored.timeless

/-- Whatever else is raised, the gateway answers that a dependency is unavailable. -/
def EventExn.answered : EventExn → EventGatewayError
  | .gateway error => error
  | .other _ => eventDependencyError "EVENT_DEPENDENCY_UNAVAILABLE"

/-- What the gateway can tell of an answer, up to the times. -/
def inboxOutcome (answer : Except EventExn InboxAnswer) : Except EventGatewayError InboxAnswer :=
  (answer.mapError EventExn.answered).map InboxAnswer.timeless

/-- What a method answers and leaves, with its result as an answer. -/
def inboxAnswered {α σ : Type} (answer : α → InboxAnswer) (outcome : Except EventExn α × σ) :
    Except EventExn InboxAnswer × σ :=
  (outcome.1.map answer, outcome.2)

namespace TimedInboxCall

variable [Sha256]

def onMemory (records : InboxRecords) (call : TimedInboxCall) :
    Except EventExn InboxAnswer × InboxRecords :=
  match call.operation with
  | .accept event changeId => inboxAnswered .acceptance (records.accept event changeId call.now)
  | .reservePublish tenantId key =>
      inboxAnswered .reservation (records.reservePublish tenantId key call.now)
  | .markPublished tenantId key expectedVersion messageId =>
      inboxAnswered .record (InboxRecords.markPublished tenantId key expectedVersion messageId
        call.now records)
  | .markPublishFailed tenantId key expectedVersion errorCode =>
      inboxAnswered .record (InboxRecords.markPublishFailed tenantId key expectedVersion errorCode
        call.now records)

def onFirestore (repo : FirestoreEventInboxRepository) (call : TimedInboxCall) :
    Except EventExn InboxAnswer × FirestoreEventInboxRepository :=
  match call.operation with
  | .accept event changeId =>
      inboxAnswered .acceptance (repo.accept event changeId call.now call.server)
  | .reservePublish tenantId key =>
      inboxAnswered .reservation (repo.reservePublish tenantId key call.now call.server)
  | .markPublished tenantId key expectedVersion messageId =>
      inboxAnswered .record (repo.markPublished tenantId key expectedVersion messageId call.now
        call.server)
  | .markPublishFailed tenantId key expectedVersion errorCode =>
      inboxAnswered .record (repo.markPublishFailed tenantId key expectedVersion errorCode call.now
        call.server)

/-- The tenant and the key of the record that a call is about. -/
def storageKey (call : TimedInboxCall) : String × String :=
  match call.operation with
  | .accept event _ => (event.tenantId, eventKey event)
  | .reservePublish tenantId key => (tenantId, key)
  | .markPublished tenantId key _ _ => (tenantId, key)
  | .markPublishFailed tenantId key _ _ => (tenantId, key)

omit [Sha256] in
/-- The clocks agree whether an open reservation that is asked for is younger than thirty seconds. -/
def Judged (call : TimedInboxCall) (records : InboxRecords) (repo : FirestoreEventInboxRepository) :
    Prop :=
  ∀ tenantId key record document, call.operation = .reservePublish tenantId key →
    records.get? (tenantId, key) = some record →
    repo.processedEvents.get? (tenantId, key) = some document → record.status = .PUBLISHING →
    (call.now < record.updatedAt + Time.seconds 30 ↔ call.now < document.updatedAt + Time.seconds 30)

end TimedInboxCall

/-! ## Corresponding stores -/

/-- A record and its document, which have been written at times that are near to each other. -/
structure InboxCopy (near : Time → Time → Prop) (record document : EventInboxRecord) : Prop where
  same : document.timeless = record.timeless
  near : near record.updatedAt document.updatedAt

section Copies

variable {record document : EventInboxRecord} (h : document.timeless = record.timeless)

include h

end Copies

/-- The database holds what the dictionary holds, up to the times. -/
def InboxMirrors (near : Time → Time → Prop) (records : InboxRecords)
    (repo : FirestoreEventInboxRepository) : Prop :=
  ∀ key, Option.Rel (InboxCopy near) (records.get? key) (repo.processedEvents.get? key)

/-- If the clocks agree, the answers are alike, and so are the stores that they leave; the answers are
not alike otherwise. -/
structure InboxAlike (near : Time → Time → Prop) (judged : Prop)
    (memory : Except EventExn InboxAnswer × InboxRecords)
    (firestore : Except EventExn InboxAnswer × FirestoreEventInboxRepository) : Prop where
  result : inboxOutcome memory.1 = inboxOutcome firestore.1 ↔ judged
  stores : judged → InboxMirrors near memory.2 firestore.2

section Calls

variable {near : Time → Time → Prop} {records : InboxRecords} {repo : FirestoreEventInboxRepository}

theorem InboxMirrors.empty : InboxMirrors near .empty ⟨.empty⟩ := fun _ => .none

/-- A record and its document are there together. -/
theorem InboxMirrors.at (h : InboxMirrors near records repo) (key : String × String) :
    records.get? key = none ∧ repo.processedEvents.get? key = none ∨
    ∃ record document, records.get? key = some record ∧
      repo.processedEvents.get? key = some document ∧ InboxCopy near record document := by
  have hkey := h key
  generalize records.get? key = record?, repo.processedEvents.get? key = document? at hkey ⊢
  cases hkey with
  | none => exact .inl ⟨rfl, rfl⟩
  | some hcopy => exact .inr ⟨_, _, rfl, rfl, hcopy⟩

theorem InboxMirrors.set (h : InboxMirrors near records repo) (key : String × String)
    {record document : EventInboxRecord} (hcopy : InboxCopy near record document) :
    InboxMirrors near (records.set key record) ⟨repo.processedEvents.set key document⟩ := by
  intro other
  show Option.Rel _ _ ((repo.processedEvents.set key document).get? other)
  rw [Dict.get?_set, Dict.get?_set]
  split_ifs
  · exact .some hcopy
  · exact h other

/-- Alike without a condition. -/
theorem InboxAlike.of_same {judged : Prop} (hjudged : judged)
    {memory : Except EventExn InboxAnswer × InboxRecords}
    {firestore : Except EventExn InboxAnswer × FirestoreEventInboxRepository}
    (hresult : inboxOutcome memory.1 = inboxOutcome firestore.1)
    (hstores : InboxMirrors near memory.2 firestore.2) : InboxAlike near judged memory firestore :=
  ⟨⟨fun _ => hjudged, fun _ => hresult⟩, fun _ => hstores⟩

/-! ## One call -/

/-- The reservation of a record, if it is granted. -/
def EventInboxRecord.granted? (current : EventInboxRecord) (now : Time) : Option EventInboxRecord :=
  if current.status = .PUBLISHED then none
  else if current.status = .PUBLISHING ∧ now < current.updatedAt + Time.seconds 30 then none
  else some (current.reserved now)

end Calls

/-! ## Runs -/

section Runs

variable [Sha256]

variable {near : Time → Time → Prop} {records : InboxRecords} {repo : FirestoreEventInboxRepository}

/-- Two times of clocks that are at most so far apart. -/
def Within (skew : Time) (a b : Time) : Prop := a ≤ b + skew ∧ b ≤ a + skew

/-- The call does not ask for an open reservation within the skew of its thirty seconds. -/
def TimedInboxCall.Clear (call : TimedInboxCall) (skew : Time) (records : InboxRecords) : Prop :=
  ∀ tenantId key record, call.operation = .reservePublish tenantId key →
    records.get? (tenantId, key) = some record → record.status = .PUBLISHING →
    call.now + skew < record.updatedAt + Time.seconds 30 ∨
      record.updatedAt + Time.seconds 30 + skew ≤ call.now

omit [Sha256] in
theorem TimedInboxCall.Clear.judged {call : TimedInboxCall} {skew : Time}
    (hclear : call.Clear skew records) (h : InboxMirrors (Within skew) records repo) :
    call.Judged records repo := by
  intro tenantId key record document hreserve hrecord hdocument hopen
  have hcopy := h (tenantId, key)
  rw [hrecord, hdocument] at hcopy
  cases hcopy with
  | some hcopy =>
    obtain ⟨hafter, hbefore⟩ := hcopy.near
    have hages := hclear tenantId key record hreserve hrecord hopen
    generalize Time.seconds 30 = lease at hages ⊢
    generalize record.updatedAt = stored at *
    generalize document.updatedAt = committed at *
    generalize call.now = now at *
    unfold Time at *
    omega

end Runs

namespace InboxDemo

local instance digests : Sha256 := .hashlib

def event : ChangeEvent where
  schemaVersion := "1.0"
  eventId := "evt_007"
  tenantId := "tenant_demo"
  eventType := "api.contract.changed"
  source := ⟨"github", "ext_007", "https://example.test"⟩
  occurredAt := 0
  receivedAt := 0
  subject := ⟨"crm", "field", "customer"⟩
  change := ⟨"Customer field renamed", "1", "2", ["artifact_007"]⟩
  correlationId := "corr_007"
  traceId := "trace_007"

/-- The server's clock is a second behind. -/
def call (operation : InboxOperation) (now : Nat) : TimedInboxCall :=
  ⟨operation, Time.seconds now, Time.seconds (now - 1)⟩

def inboxKey : String := "423754201c84b6247bdd418a67b79ae9feeaa3b42f92bcc2aeec379e6a1aac48"

def accepted : TimedInboxCall := call (.accept event "chg_007") 100

def reserved (now : Nat) : TimedInboxCall := call (.reservePublish "tenant_demo" inboxKey) now

/-- A reservation, and another one later. -/
def run (retried : Nat) : List TimedInboxCall := [accepted, reserved 101, reserved retried]

end InboxDemo

end ChangeOps
