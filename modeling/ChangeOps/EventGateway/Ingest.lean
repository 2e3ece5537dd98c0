import ChangeOps.Core.Runtime
import ChangeOps.EventGateway.RateLimit

/-!
# ChangeOps.EventGateway — the ingestion of an event

`ingest_change` (`changeops_event_gateway/app.py`) from the parsed event on, with the tenant
rate limiter (`rate_limit.py`), as a resumable program: each reading of the clock, each call of
the repository and each end of the publish call is one action, and other requests may act in
between. A request that dies is one that is never scheduled again.

The publisher is Google Pub/Sub behind `event_publisher.publish`, so the answer to its `n`-th
call is a parameter. Message identifiers carry no blanks around them.

The world keeps a journal of what the requests did, which no code reads: who was granted which
reservation, who called the publisher, what it answered, and who finished.
-/

namespace ChangeOps

/-- A Pub/Sub message identifier. -/
structure MessageId where
  text : String
  stripped : stripWhitespace text = text

/-- One entry of the journal. A reservation is named by the storage key of the event and the
version of the record that was returned. -/
inductive InboxNote where
  | granted (request : Nat) (key : String × String) (version : Nat) (reservedAt present : Time)
  | publishCalled (request : Nat) (key : String × String) (version : Nat)
  | publishReturned (request : Nat) (key : String × String) (version : Nat) (inputHash : String)
      (messageId : String)
  | finished (request : Nat) (key : String × String) (version : Nat) (status : InboxStatus)
deriving DecidableEq

/-- The storage key that an entry is about. -/
def InboxNote.key : InboxNote → String × String
  | .granted _ key _ _ _ => key
  | .publishCalled _ key _ => key
  | .publishReturned _ key _ _ _ => key
  | .finished _ key _ _ => key

/-- What the requests share: the inbox, the rate limiter, the clock, the publisher, and the
journal, latest entry first. -/
structure InboxWorld where
  records : InboxRecords
  limiter : Dict String (List Time)
  tick : Nat
  publishes : Nat
  log : List InboxNote

/-- The world of a gateway that has just started. -/
def InboxWorld.empty : InboxWorld := ⟨.empty, .empty, 0, 0, []⟩

/-- The configuration of the gateway and its publisher. -/
structure EventGateway where
  runtime : LawfulRuntime
  eventRateLimitPerMinute : Nat
  changeStatusBaseUrl : String
  publish : Nat → ChangeEvent → String → Except EventExn MessageId

/-- A request; `id` tells requests for the same event apart. -/
structure IngestRequest where
  id : Nat
  event : ChangeEvent

structure EventAcceptedResponse where
  eventId : String
  changeId : String
  status : InboxStatus
  statusUrl : String
  replayed : Bool
deriving DecidableEq

/-! ## Primitive actions -/

/-- `now()`. -/
def inboxNow (gateway : EventGateway) : Prog InboxWorld EventExn Time :=
  .atomic fun w => (.ok (gateway.runtime.clock w.tick), { w with tick := w.tick + 1 })

/-- `limiter.acquire`. -/
def acquire (gateway : EventGateway) (tenantId : String) (now : Time) :
    Prog InboxWorld EventExn Unit :=
  .atomic fun w =>
    let result := TenantEventRateLimiter.acquire ⟨gateway.eventRateLimitPerMinute, w.limiter⟩
      tenantId now
    (result.1, { w with limiter := result.2.events })

variable [Sha256]

def IngestRequest.key (request : IngestRequest) : String × String :=
  (request.event.tenantId, eventKey request.event)

/-- `inbox.accept`. -/
def acceptEvent (request : IngestRequest) (changeId : String) (now : Time) :
    Prog InboxWorld EventExn InboxAcceptance :=
  .atomic fun w =>
    let result := InboxRecords.accept request.event changeId now w.records
    (result.1, { w with records := result.2 })

/-- `inbox.reserve_publish`; a grant is entered in the journal. -/
def reservePublish (gateway : EventGateway) (request : IngestRequest) (key : String) (now : Time) :
    Prog InboxWorld EventExn (Option EventInboxRecord) :=
  .atomic fun w =>
    let result := InboxRecords.reservePublish request.event.tenantId key now w.records
    match result.1 with
    | .ok (some reservation) =>
        (.ok (some reservation), { w with
          records := result.2
          log := .granted request.id (request.event.tenantId, key) reservation.version
            reservation.updatedAt (gateway.runtime.clock w.tick) :: w.log })
    | outcome => (outcome, { w with records := result.2 })

/-- `event_publisher.publish`: the call, and later its answer. -/
def publishEvent (gateway : EventGateway) (request : IngestRequest) (changeId : String)
    (reservation : EventInboxRecord) : Prog InboxWorld EventExn MessageId :=
  let key := (request.event.tenantId, reservation.eventKey)
  (Prog.atomic fun w => (.ok w.publishes, { w with
    publishes := w.publishes + 1
    log := .publishCalled request.id key reservation.version :: w.log })).bind fun call =>
  .atomic fun w =>
    match gateway.publish call request.event changeId with
    | .ok messageId => (.ok messageId, { w with
        log := .publishReturned request.id key reservation.version (eventInputHash request.event)
          messageId.text :: w.log })
    | .error error => (.error error, w)

/-- `inbox.mark_published` and `inbox.mark_publish_failed`; a success is entered in the journal. -/
def finishReservation (request : IngestRequest) (reservation : EventInboxRecord)
    (status : InboxStatus)
    (method : InboxRecords → Except EventExn EventInboxRecord × InboxRecords) :
    Prog InboxWorld EventExn EventInboxRecord :=
  .atomic fun w =>
    let result := method w.records
    match result.1 with
    | .ok record => (.ok record, { w with
        records := result.2
        log := .finished request.id (request.event.tenantId, reservation.eventKey)
          reservation.version status :: w.log })
    | .error error => (.error error, { w with records := result.2 })

/-! ## The handler -/

def acceptedResponse (gateway : EventGateway) (request : IngestRequest) (changeId : String)
    (status : InboxStatus) (replayed : Bool) : EventAcceptedResponse where
  eventId := request.event.eventId
  changeId := changeId
  status := status
  statusUrl := gateway.changeStatusBaseUrl ++ "/v1/changes/" ++ changeId
  replayed := replayed

/-- From a granted reservation on: publish, then finish the reservation one way or the other. -/
def publishReserved (gateway : EventGateway) (request : IngestRequest) (changeId : String)
    (replayed : Bool) (reservation : EventInboxRecord) :
    Prog InboxWorld EventExn EventAcceptedResponse :=
  ((publishEvent gateway request changeId reservation).tryCatch fun _ =>
    (inboxNow gateway).bind fun now =>
    (finishReservation request reservation .PUBLISH_FAILED
      (InboxRecords.markPublishFailed request.event.tenantId reservation.eventKey
        reservation.version "PUBSUB_PUBLISH_FAILED" now)).bind fun _ =>
    .raise (.gateway (eventDependencyError "PUBSUB_PUBLISH_FAILED"))).bind fun messageId =>
  (inboxNow gateway).bind fun now =>
  (finishReservation request reservation .PUBLISHED
    (InboxRecords.markPublished request.event.tenantId reservation.eventKey reservation.version
      messageId.text now)).bind fun published =>
  .ret (acceptedResponse gateway request changeId published.status replayed)

/-- The body of the outer `try`. -/
def ingestAccepted (gateway : EventGateway) (request : IngestRequest) (changeId : String)
    (timestamp : Time) : Prog InboxWorld EventExn EventAcceptedResponse :=
  (acceptEvent request changeId timestamp).bind fun accepted =>
  if accepted.record.status = .PUBLISHED then
    .ret (acceptedResponse gateway request changeId accepted.record.status true)
  else
    (reservePublish gateway request accepted.record.eventKey timestamp).bind fun
      | none => .ret (acceptedResponse gateway request changeId .PUBLISHING true)
      | some reservation => publishReserved gateway request changeId accepted.replayed reservation

/-- `ingest_change`, from the parsed event on. -/
def ingestChange (gateway : EventGateway) (request : IngestRequest) :
    Prog InboxWorld EventExn EventAcceptedResponse :=
  (inboxNow gateway).bind fun timestamp =>
  (acquire gateway request.event.tenantId timestamp).bind fun _ =>
  (ingestAccepted gateway request (deriveChangeId request.event) timestamp).tryCatch fun
    | .gateway error => .raise (.gateway error)
    | .other _ => .raise (.gateway (eventDependencyError "EVENT_DEPENDENCY_UNAVAILABLE"))

end ChangeOps
