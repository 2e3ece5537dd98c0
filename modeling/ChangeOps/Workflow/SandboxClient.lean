import ChangeOps.Workflow.Clients
import ChangeOps.ToolGateway.Models

/-!
# ChangeOps.Workflow — the sandbox client over HTTP

`SandboxClient` (`changeops_workflow_coordinator/clients.py`), as far as a rollback calls it:
how `restore` and `configuration_hash` map the answer of a sandbox, or the failure of the
transport, to a result or an exception. What the clients do not catch is `unmapped`.
-/

namespace ChangeOps

/-! ## Answers -/

/-- What `client.request` raises instead of an answer: the exceptions of `httpx`, and the one of
the service authentication, which is asked for its headers first. -/
inductive TransportError where
  | TimeoutException | NetworkError | ProtocolError | ProxyError | UnsupportedProtocol
  | DecodingError | TooManyRedirects | InvalidURL
  | ServiceAuthenticationError
deriving DecidableEq, Repr

/-- The body of a response, as `response.json()` sees it. -/
inductive Body where
  /-- A JSON document. If it has no canonical text (a number that is not finite, a text that is
  not UTF-8), `canonical` is false and such parts of `document` stand for themselves. -/
  | json (document : Json) (canonical : Bool)
  /-- Not JSON: a `ValueError`. -/
  | invalid
  /-- JSON nested beyond the recursion limit: a `RecursionError`. -/
  | tooDeep

/-- What comes of a request. -/
inductive HttpAnswer where
  | response (statusCode : Nat) (body : Body)
  | failure (error : TransportError)

/-- `document.get(name)` of a dictionary, `None` of anything else. -/
def Json.field (name : String) : Json → Json
  | .obj fields => (fields.lookup name).getD .null
  | _ => .null

/-! ## Errors -/

/-- The error code in the body of a refused request, if there is one. -/
def bodyCode (document : Json) : Option String :=
  let candidate := match document.field "code" with
    | .null => (document.field "error").field "code"
    | code => code
  match candidate with
  | .str code => if code = "" then none else some code
  | _ => none

/-- `_response_error`. -/
def responseError (statusCode : Nat) (body : Body) : RemoteError :=
  let transient : Bool := statusCode = 429 || 500 ≤ statusCode
  match body with
  | .json document _ =>
      .dependencyCall ((bodyCode document).getD ("HTTP_" ++ toString statusCode)) transient
  | .invalid => .dependencyCall ("HTTP_" ++ toString statusCode) transient
  | .tooDeep => .unmapped "RecursionError"

namespace SandboxClient

/-- `_call`: the body of an accepted response. -/
def call : HttpAnswer → Except RemoteError Body
  | .response statusCode body =>
      if 400 ≤ statusCode then .error (responseError statusCode body) else .ok body
  | .failure .TimeoutException | .failure .NetworkError | .failure .ServiceAuthenticationError =>
      .error (.dependencyCall "SANDBOX_UNAVAILABLE" true)
  | .failure _ => .error (.unmapped "httpx.TransportError")

/-- The texts that pydantic reads as a boolean. -/
def boolTexts : List (String × Bool) :=
  [("1", true), ("on", true), ("t", true), ("true", true), ("y", true), ("yes", true),
    ("0", false), ("off", false), ("f", false), ("false", false), ("n", false), ("no", false)]

/-- A field of type `bool`. -/
def boolField : Json → Option Bool
  | .bool b => some b
  | .int 0 => some false
  | .int 1 => some true
  | .str text => boolTexts.lookup (String.ofList (text.toList.map Char.toLower))
  | _ => none

/-- A field of type `NonEmptyStr`. -/
def textField : Json → Option String
  | .str text => (nonEmptyStr text).toOption
  | _ => none

/-- A field of type `Sha256Digest`. -/
def digestField : Json → Option String
  | .str text => (digestStr text).toOption
  | _ => none

structure RestoreResult where
  systemId : String
  snapshotId : String
  configurationHash : String
  restored : Bool

/-- `RestoreResult.model_validate`: the four fields and no others. -/
def RestoreResult.modelValidate? (document : Json) : Option RestoreResult := do
  let .obj fields := document | none
  if fields.all fun field => ["system_id", "snapshot_id", "configuration_hash", "restored"].contains
      field.1 then
    let systemId ← textField (document.field "system_id")
    let snapshotId ← textField (document.field "snapshot_id")
    let configurationHash ← digestField (document.field "configuration_hash")
    let restored ← boolField (document.field "restored")
    return ⟨systemId, snapshotId, configurationHash, restored⟩
  else none

/-- `restore`, from the answer on. Only a `ValidationError` is caught around `response.json()`,
so a body that is not JSON is not mapped. -/
def restore (snapshotId : String) (answer : HttpAnswer) : Except RemoteError Unit := do
  match ← call answer with
  | .json document canonical =>
      match if canonical then RestoreResult.modelValidate? document else none with
      | none => .error (.dependencyCall "RESTORE_INVALID_RESPONSE" false)
      | some result =>
          if !result.restored || result.snapshotId ≠ snapshotId then
            .error (.dependencyCall "RESTORE_NOT_CONFIRMED" false)
          else .ok ()
  | .invalid => .error (.unmapped "JSONDecodeError")
  | .tooDeep => .error (.unmapped "RecursionError")

/-- `configuration_hash`, from the answer on, up to the digest: the document that it hashes. -/
def configuration (answer : HttpAnswer) : Except RemoteError Json := do
  match ← call answer with
  | .json (.obj fields) true => .ok (.obj fields)
  | .json (.obj _) false => .error (.unmapped "ValueError")
  | .json _ _ => .error (.dependencyCall "CONFIGURATION_INVALID_RESPONSE" false)
  | .invalid => .error (.dependencyCall "CONFIGURATION_INVALID_RESPONSE" false)
  | .tooDeep => .error (.unmapped "RecursionError")

end SandboxClient

/-! ## Requests -/

/-- The requests of a rollback. The request id is a header that the sandboxes echo. -/
inductive SandboxRequest where
  | restore (system : SystemId) (tenantId snapshotId : String)
  | configuration (system : SystemId) (tenantId : String)

/-- The sandboxes behind the transport: any answer, and any effect on their state. -/
abbrev SandboxHttp (E : Type) := SandboxRequest → E → HttpAnswer × E

/-- The services restore and read configurations through the sandbox client. -/
structure Services.UsesSandboxClient {E : Type} (services : Services E) (http : SandboxHttp E) :
    Prop where
  restore : ∀ system tenantId snapshotId requestId changes e,
    services.restore system tenantId snapshotId requestId changes e =
      let answer := http (.restore system tenantId snapshotId) e
      (SandboxClient.restore snapshotId answer.1, answer.2)
  configuration : ∀ system tenantId requestId changes e,
    services.configuration system tenantId requestId changes e =
      let answer := http (.configuration system tenantId) e
      (SandboxClient.configuration answer.1, answer.2)

end ChangeOps
