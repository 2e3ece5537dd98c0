import ChangeOps.Contracts.Models

/-!
# ChangeOps — the exceptions

The Python exceptions that the modelled code raises, catches or lets through, each with the
attributes that somebody reads: the persistence failures
(`changeops_persistence/errors.py`), the state machine's refusal, the client-side
`DependencyCallError` and the failures of the coordinator
(`changeops_workflow_coordinator/errors.py`).
-/

namespace ChangeOps

/-- An exception. -/
inductive Exn where
  | changeNotFound (tenantId changeId : String)
  | tenantScopeViolation (tenantId changeId : String)
  | changeAlreadyExists (tenantId changeId : String)
  | auditEventAlreadyExists (tenantId auditEventId : String)
  | optimisticConcurrency (changeId : String) (expectedVersion actualVersion : Nat)
  | invalidStateTransition (current target : WorkflowState) (auditEventId : String)
  | valueError (message : String)
  /-- pydantic's `ValidationError`, with the message of the failed check. -/
  | validationError (message : String)
  | dependencyCall (code : String) (transient : Bool)
  | workflowTransient (code : String)
  | workflowPermanent (code : String)
  | workflowNotFound
  | workflowConflict (detail : String)
  /-- Any exception that no handler of the modelled code names. -/
  | other (text : String)
deriving DecidableEq, Repr

end ChangeOps
