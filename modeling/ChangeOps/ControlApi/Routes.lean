import ChangeOps.Core.StateMachine

/-!
# ChangeOps.ControlApi — the routes that move a change

`control_api/routes.py`: `cancel_change` and `retry_change`, over the transition service. Each
call of the service or of the repository runs in a thread of its own, so the handlers are
interleaved with everything else at these calls. The expected version is the caller's number;
the handlers pass it on as it is.
-/

namespace ChangeOps

structure TransitionRequest where
  expectedVersion : Nat
  traceId : String
  version_pos : 1 ≤ expectedVersion

/-- What a mutating route is given: the path, the headers and the body. -/
structure RouteRequest where
  tenantId : String
  changeId : String
  actorId : String
  mutation : TransitionRequest

namespace RouteRequest

/-- The call of the transition service that a route makes. -/
def transitionCall (request : RouteRequest) (target : WorkflowState) : TransitionCall where
  tenantId := request.tenantId
  changeId := request.changeId
  target := target
  expectedVersion := request.mutation.expectedVersion
  traceId := request.mutation.traceId
  actorType := .USER
  actorId := request.actorId

variable [Sha256] {X : Type}

/-- The local `transition` of `build_router`. -/
def transition (rt : Runtime) (request : RouteRequest) (target : WorkflowState) :
    Action X ChangeRecord := do
  let _ ← ChangeOps.transition rt (request.transitionCall target)
  getChange request.tenantId request.changeId

def cancelChange (rt : Runtime) (request : RouteRequest) : Action X ChangeRecord :=
  request.transition rt .CANCELLED

/-- The state in which a retry puts a change. -/
def retryTarget : WorkflowState → WorkflowState
  | .BLOCKED | .NEEDS_ATTENTION => .SCREENING
  | status => status

def retryChange (rt : Runtime) (request : RouteRequest) : Action X ChangeRecord := do
  let current ← getChange request.tenantId request.changeId
  request.transition rt (retryTarget current.status)

end RouteRequest

/-- A retry asks for an edge of the graph only from the states that it restarts. -/
theorem retryTarget_of_canTransition {status : WorkflowState}
    (h : canTransition status (RouteRequest.retryTarget status) = true) :
    RouteRequest.retryTarget status = .SCREENING := by
  cases status <;> first | rfl | cases h

end ChangeOps
