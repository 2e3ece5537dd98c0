import ChangeOps.Core.Runtime
import ChangeOps.Policy.Engine
import ChangeOps.ToolGateway.Repository

/-!
# ChangeOps.ToolGateway — the world of the gateway

What concurrent requests of the gateway (`changeops_tool_gateway/app.py`) share, and their
primitive actions: each reading of the clock, each fresh identifier and each call of a repository
is one action, and other requests may act in between. A request that dies is one that is never
scheduled again.

The sandbox systems and the coordinator are behind HTTP, so the answer to the `n`-th call of each
is a parameter. What a patch answer's document must look like is pydantic's
`PatchExecutionOutput.model_validate`; a document that does not pass is no document here.

The world keeps a journal of what the requests did, which no code reads, and the requests that are
`gone`: they have ended or died.
-/

namespace ChangeOps

/-! ## Errors -/

/-- `AuthorizationError()`. -/
def notAuthorizedError : GatewayError :=
  authorizationError "The authenticated identity is not authorized."

def policyDeniedError : GatewayError :=
  ⟨"POLICY_DENIED", "Policy denied", "Deterministic policy denied the requested tool action.", 403⟩

def gatewayValidationError (detail : String) : GatewayError :=
  ⟨"VALIDATION", "Validation failed", detail, 422⟩

def rateLimitedError : GatewayError :=
  ⟨"RATE_LIMITED", "Tool quota exceeded",
    "The tenant and tool concurrency quota is currently exhausted.", 429⟩

/-! ## The sandbox systems -/

structure PatchExecutionOutput where
  systemId : String
  fieldName : String
  before : String
  after : String
  idempotencyKey : String
  configurationHash : String
  replayed : Bool

/-- `model_dump(mode="json")`, in the order of the keys. -/
def PatchExecutionOutput.modelDump (output : PatchExecutionOutput) : JsonObject where
  fields :=
    [("after", .str output.after), ("before", .str output.before),
      ("configuration_hash", .str output.configurationHash),
      ("field_name", .str output.fieldName), ("idempotency_key", .str output.idempotencyKey),
      ("replayed", .bool output.replayed), ("system_id", .str output.systemId)]
  sorted := by
    simp only [Json.isSorted, Json.isSortedFields, List.head?_cons, List.head?_nil, Option.all_some,
      Option.all_none, Bool.true_and, Bool.and_true, Bool.and_eq_true, decide_eq_true_eq]
    decide

/-- The request to a sandbox system. -/
structure PatchCall where
  service : String
  tenantId : String
  requestId : String
  oldField : String
  newField : String
  idempotencyKey : String
  changeId : String
  planHash : String
deriving DecidableEq, Repr

/-- What comes of it: an answer, with its document if that is valid; no answer, or no
credentials; or another exception. -/
inductive PatchAnswer where
  | response (statusCode : Nat) (document : Option PatchExecutionOutput)
  | unavailable
  | failed (error : Exn)

/-! ## The world of the gateway -/

/-- One entry of the journal. A reservation is named by the storage key of the execution and the
`attempt_count` of the record that was returned; a report says which attempt it reports on and
which one the stored record was at. -/
inductive ExecutionNote where
  | granted (request : Nat) (key : String × String) (attempt : Nat)
  | reported (request : Nat) (key : String × String) (attempt stored : Nat)
deriving DecidableEq, Repr

/-- The request that an entry is about. -/
def ExecutionNote.request : ExecutionNote → Nat
  | .granted request _ _ => request
  | .reported request _ _ _ => request

/-- What the requests share: the repositories, the quotas, the readings of the clock and of
`uuid4`, the calls of the sandbox systems and of the coordinator. The other fields are for the
journal, latest entry first: the reservations and reports, the times of the reservations, the
requests that have read their change and not called the tool yet, the decisions, and the requests
that are gone. -/
structure GatewayWorld where
  governance : GovernanceRepository
  changes : InMemoryChangeStateRepository
  active : Dict (String × String) Nat
  tick : Nat
  uuid : Nat
  patches : Nat
  callbacks : Nat
  log : List ExecutionNote
  reservations : List (Nat × Time)
  reading : List Nat
  deciders : List ((String × String) × VerifiedIdentity)
  gone : List Nat

/-- The configuration of the gateway, the sandbox systems, and the coordinator's answers to
callbacks. -/
structure ToolGateway where
  runtime : LawfulRuntime
  registry : List ToolRegistration
  maximumConcurrentPerTool : Nat
  patch : Nat → PatchCall → PatchAnswer
  notify : Nat → ApprovalRequestRecord → Except GatewayExn Unit

/-- A resumable program of the gateway. -/
abbrev GatewayAction (α : Type) := Prog GatewayWorld GatewayExn α

/-- `_actor_type`. -/
def IdentityKind.actorType : IdentityKind → ActorType
  | .AGENT => .AGENT
  | .SERVICE => .SERVICE
  | .USER => .USER

/-! ## Primitive actions -/

/-- `now()`. -/
def gatewayNow (gateway : ToolGateway) : GatewayAction Time :=
  .atomic fun w => (.ok (gateway.runtime.clock w.tick), { w with tick := w.tick + 1 })

/-- `uuid4().hex`. -/
def gatewayUuid (gateway : ToolGateway) : GatewayAction String :=
  .atomic fun w => (.ok (gateway.runtime.uuid4 w.uuid), { w with uuid := w.uuid + 1 })

/-- A method of the governance repository that reads. -/
def readGovernance {α : Type} (method : GovernanceRepository → Except GatewayExn α) :
    GatewayAction α :=
  .atomic fun w => (method w.governance, w)

/-- `changes.get`. -/
def readChange (tenantId changeId : String) : GatewayAction ChangeRecord :=
  .atomic fun w => ((w.changes.get tenantId changeId).mapError .raised, w)

/-- `governance.record_audit`. -/
def auditAction (event : AuditEvent) : GatewayAction Unit :=
  .atomic fun w =>
    let result := w.governance.recordAudit event
    (result.1, { w with governance := result.2 })

end ChangeOps
