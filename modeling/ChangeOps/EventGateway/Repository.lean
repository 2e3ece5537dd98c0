import ChangeOps.Lib.Dict
import ChangeOps.Workflow.Models

/-!
# ChangeOps.EventGateway — the transactional event inbox

The records of `changeops_event_gateway/models.py`, the errors of `errors.py` and
`InMemoryEventInboxRepository` (`repository.py`). Every method holds the lock for its whole
body, so each is one atomic function of the stored records.
-/

namespace ChangeOps

/-! ## Errors -/

/-- An `EventGatewayError`. -/
structure EventGatewayError where
  code : String
  detail : String
  statusCode : Nat
deriving DecidableEq, Repr

def eventConflictError : EventGatewayError :=
  ⟨"EVENT_IDEMPOTENCY_CONFLICT", "The event identifier was already used for different content.", 409⟩

def eventRateLimitedError : EventGatewayError :=
  ⟨"RATE_LIMITED", "The tenant event-ingestion rate limit is exhausted.", 429⟩

def eventDependencyError (code : String) : EventGatewayError :=
  ⟨code, "Event persistence or publication is temporarily unavailable.", 503⟩

/-- What the gateway's code raises: a problem of its own, or any other Python exception. -/
inductive EventExn where
  | gateway (error : EventGatewayError)
  | other (text : String)
deriving DecidableEq, Repr

/-! ## Records -/

inductive InboxStatus where
  | PENDING | PUBLISHING | PUBLISHED | PUBLISH_FAILED | PROCESSING | PROCESSED | DEAD_LETTERED
deriving DecidableEq, Repr

structure EventInboxRecord where
  eventKey : String
  tenantId : String
  eventId : String
  sourceType : String
  changeId : String
  inputHash : String
  event : ChangeEvent
  status : InboxStatus
  publishAttempts : Nat
  processingAttempts : Nat
  pubsubMessageId : Option String
  lastErrorCode : Option String
  createdAt : Time
  updatedAt : Time
  version : Nat
  version_pos : 1 ≤ version
deriving Repr

structure InboxAcceptance where
  record : EventInboxRecord
  replayed : Bool

section Keys

variable [Sha256]

/-- The document whose digest identifies an event. -/
def eventKeyDocument (event : ChangeEvent) : Json :=
  .obj [("event_id", .str event.eventId), ("source", .str event.source.type),
    ("tenant_id", .str event.tenantId)]

/-- `event_key`: the digest without its `sha256:`. -/
def eventKey (event : ChangeEvent) : String :=
  String.ofList ((sha256Digest (eventKeyDocument event)).toList.drop 7)

/-- `sha256_digest(event)`. -/
def eventInputHash (event : ChangeEvent) : String := sha256Digest event.modelDump

/-- The record of an event that is accepted for the first time. -/
def newInboxRecord (event : ChangeEvent) (changeId : String) (now : Time) : EventInboxRecord where
  eventKey := eventKey event
  tenantId := event.tenantId
  eventId := event.eventId
  sourceType := event.source.type
  changeId := changeId
  inputHash := eventInputHash event
  event := event
  status := .PENDING
  publishAttempts := 0
  processingAttempts := 0
  pubsubMessageId := none
  lastErrorCode := none
  createdAt := now
  updatedAt := now
  version := 1
  version_pos := one_le_one

end Keys

/-- The record of a granted publish reservation. -/
def EventInboxRecord.reserved (current : EventInboxRecord) (now : Time) : EventInboxRecord :=
  { current with
    status := .PUBLISHING
    publishAttempts := current.publishAttempts + 1
    lastErrorCode := none
    updatedAt := now
    version := current.version + 1
    version_pos := Nat.le_add_left 1 current.version }

/-- The record of a finished publish reservation. -/
def EventInboxRecord.finished (current : EventInboxRecord) (status : InboxStatus)
    (messageId errorCode : Option String) (now : Time) : EventInboxRecord :=
  { current with
    status := status
    pubsubMessageId := messageId
    lastErrorCode := errorCode
    updatedAt := now
    version := current.version + 1
    version_pos := Nat.le_add_left 1 current.version }

/-! ## The repository -/

/-- `self._records`, under tenant and event key. -/
abbrev InboxRecords := Dict (String × String) EventInboxRecord

namespace InboxRecords

def accept [Sha256] (event : ChangeEvent) (changeId : String) (now : Time) (records : InboxRecords) :
    Except EventExn InboxAcceptance × InboxRecords :=
  let storageKey := (event.tenantId, eventKey event)
  match records.get? storageKey with
  | some existing =>
      if existing.inputHash ≠ eventInputHash event then
        (.error (.gateway eventConflictError), records)
      else (.ok ⟨existing, true⟩, records)
  | none =>
      let record := newInboxRecord event changeId now
      (.ok ⟨record, false⟩, records.set storageKey record)

/-- A reservation that is 30 seconds old may be taken over. -/
def reservePublish (tenantId key : String) (now : Time) (records : InboxRecords) :
    Except EventExn (Option EventInboxRecord) × InboxRecords :=
  match records.get? (tenantId, key) with
  | none => (.error (.other "KeyError"), records)
  | some current =>
      if current.status = .PUBLISHED then (.ok none, records)
      else if current.status = .PUBLISHING ∧ now < current.updatedAt + Time.seconds 30 then
        (.ok none, records)
      else
        let updated := current.reserved now
        (.ok (some updated), records.set (tenantId, key) updated)

/-- Only the reservation with the expected version can be finished; the texts are validated
before anything is stored. -/
def finishPublish (tenantId key : String) (expectedVersion : Nat) (status : InboxStatus)
    (messageId errorCode : Option String) (now : Time) (records : InboxRecords) :
    Except EventExn EventInboxRecord × InboxRecords :=
  match records.get? (tenantId, key) with
  | none => (.error (.other "KeyError"), records)
  | some current =>
      if current.version ≠ expectedVersion ∨ current.status ≠ .PUBLISHING then
        (.error (.other "Event publish reservation is stale."), records)
      else match nonEmptyStrOrNone messageId, nonEmptyStrOrNone errorCode with
        | .ok messageId, .ok errorCode =>
            let updated := current.finished status messageId errorCode now
            (.ok updated, records.set (tenantId, key) updated)
        | _, _ => (.error (.other "ValidationError"), records)

def markPublished (tenantId key : String) (expectedVersion : Nat) (messageId : String) (now : Time) :
    InboxRecords → Except EventExn EventInboxRecord × InboxRecords :=
  finishPublish tenantId key expectedVersion .PUBLISHED (some messageId) none now

def markPublishFailed (tenantId key : String) (expectedVersion : Nat) (errorCode : String)
    (now : Time) : InboxRecords → Except EventExn EventInboxRecord × InboxRecords :=
  finishPublish tenantId key expectedVersion .PUBLISH_FAILED none (some errorCode) now

/-! ## What the methods can do -/

theorem accept_cases [Sha256] (event : ChangeEvent) (changeId : String) (now : Time)
    (records : InboxRecords) :
    (∃ existing, records.get? (event.tenantId, eventKey event) = some existing ∧
      existing.inputHash ≠ eventInputHash event ∧
      accept event changeId now records = (.error (.gateway eventConflictError), records)) ∨
    (∃ existing, records.get? (event.tenantId, eventKey event) = some existing ∧
      existing.inputHash = eventInputHash event ∧
      accept event changeId now records = (.ok ⟨existing, true⟩, records)) ∨
    (records.get? (event.tenantId, eventKey event) = none ∧
      accept event changeId now records = (.ok ⟨newInboxRecord event changeId now, false⟩,
        records.set (event.tenantId, eventKey event) (newInboxRecord event changeId now))) := by
  unfold accept
  cases hget : records.get? (event.tenantId, eventKey event) with
  | none => exact .inr (.inr ⟨rfl, by simp only [hget]⟩)
  | some existing =>
    by_cases hhash : existing.inputHash = eventInputHash event
    · exact .inr (.inl ⟨existing, rfl, hhash, by simp [hget, hhash]⟩)
    · exact .inl ⟨existing, rfl, hhash, by simp [hget, hhash]⟩

theorem reservePublish_cases (tenantId key : String) (now : Time) (records : InboxRecords) :
    (∃ error, reservePublish tenantId key now records = (.error error, records)) ∨
    reservePublish tenantId key now records = (.ok none, records) ∨
    (∃ current, records.get? (tenantId, key) = some current ∧ current.status ≠ .PUBLISHED ∧
      (current.status = .PUBLISHING → current.updatedAt + Time.seconds 30 ≤ now) ∧
      reservePublish tenantId key now records =
        (.ok (some (current.reserved now)), records.set (tenantId, key) (current.reserved now))) := by
  unfold reservePublish
  cases hget : records.get? (tenantId, key) with
  | none => exact .inl ⟨_, rfl⟩
  | some current =>
    by_cases hpublished : current.status = .PUBLISHED
    · exact .inr (.inl (by simp [hpublished]))
    · by_cases hyoung : current.status = .PUBLISHING ∧ now < current.updatedAt + Time.seconds 30
      · exact .inr (.inl (by simp [hyoung.1, hyoung.2]))
      · refine .inr (.inr ⟨current, rfl, hpublished, fun hstatus => ?_, ?_⟩)
        · exact Nat.le_of_not_lt fun hlt => hyoung ⟨hstatus, hlt⟩
        · simp only [hpublished, hyoung, if_false]

theorem finishPublish_cases (tenantId key : String) (expectedVersion : Nat) (status : InboxStatus)
    (messageId errorCode : Option String) (now : Time) (records : InboxRecords) :
    (∃ error, finishPublish tenantId key expectedVersion status messageId errorCode now records =
      (.error error, records)) ∨
    (∃ current messageId' errorCode', records.get? (tenantId, key) = some current ∧
      current.version = expectedVersion ∧ current.status = .PUBLISHING ∧
      nonEmptyStrOrNone messageId = .ok messageId' ∧
      finishPublish tenantId key expectedVersion status messageId errorCode now records =
        (.ok (current.finished status messageId' errorCode' now),
          records.set (tenantId, key) (current.finished status messageId' errorCode' now))) := by
  unfold finishPublish
  cases hget : records.get? (tenantId, key) with
  | none => exact .inl ⟨_, rfl⟩
  | some current =>
    by_cases hstale : current.version ≠ expectedVersion ∨ current.status ≠ .PUBLISHING
    · exact .inl ⟨_, if_pos hstale⟩
    · cases hmessage : nonEmptyStrOrNone messageId with
      | error error => exact .inl ⟨_, if_neg hstale⟩
      | ok messageId' =>
        cases herror : nonEmptyStrOrNone errorCode with
        | error error => exact .inl ⟨_, if_neg hstale⟩
        | ok errorCode' =>
          have hcurrent := hstale
          push Not at hcurrent
          exact .inr ⟨current, messageId', errorCode', rfl, hcurrent.1, hcurrent.2, rfl,
            if_neg hstale⟩

end InboxRecords

end ChangeOps
