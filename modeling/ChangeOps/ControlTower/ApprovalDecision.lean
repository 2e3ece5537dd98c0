import ChangeOps.ControlTower.OperatorToken
import ChangeOps.ToolGateway.ApprovalAudit
import ChangeOps.ToolGateway.Approvals
import ChangeOps.TypescriptContracts.CanonicalJson

/-!
# ChangeOps.ControlTower — submitting an approval decision

`submitApprovalDecision` (`apps/control-tower/src/lib/changeops-data.ts`) against the routes of the
gateway (`changeops_tool_gateway/app.py`). The tower reads the approval, sends the decision, and sends
it once more after a 503. Any number of operators submit decisions at once, the gateway works on other
requests in between (`concurrent`), and each request or its answer can get lost on the way.

A decision that the tower reports as made, or that it reports as stored with a callback that failed,
is the one in the gateway's store, and stays there. So whatever two operators are told about one
approval, they are told the same.
-/

namespace ChangeOps.ControlTower

open Authentication

/-! ## The routes -/

section

variable [TokenLibrary]

variable [Sha256]

end

/-- The answer that an exception of the gateway turns into: the status, and the `detail` of the problem.
An exception without a handler is answered in plain text, which the tower cannot parse. -/
def problemOf : GatewayExn → Nat × String
  | .gateway error => (error.statusCode, error.detail)
  | .adapter _ detail transient => (if transient then 503 else 502, detail)
  | .raised (.changeNotFound ..) => (404, "The requested change was not found.")
  | .raised (.tenantScopeViolation ..) => (404, "The requested change was not found.")
  | .raised (.changeAlreadyExists ..) =>
      (503, "Authoritative governance persistence is unavailable.")
  | .raised (.auditEventAlreadyExists ..) =>
      (503, "Authoritative governance persistence is unavailable.")
  | .raised (.optimisticConcurrency ..) =>
      (503, "Authoritative governance persistence is unavailable.")
  | .raised _ => (500, "Tool Gateway returned an invalid response.")

/-! ## The tower -/

/-- What the tower throws: an `UpstreamError`, or an error of its own. -/
inductive TowerError where
  | upstream (message : String) (status : Option Nat)
  | raised (message : String)
deriving DecidableEq

def TowerError.message : TowerError → String
  | .upstream message _ => message
  | .raised message => message

/-- What goes wrong between the tower and the gateway: there is no answer in time, or the platform
answers with something that is no JSON, or with JSON that has no `detail`. -/
inductive Fault where
  | unavailable
  | invalid (status : Nat)
  | failed (status : Nat)
deriving DecidableEq

def Fault.error : Fault → TowerError
  | .unavailable => .upstream "Tool Gateway is unavailable." none
  | .invalid status => .upstream "Tool Gateway returned an invalid response." (some status)
  | .failed status => .upstream "Tool Gateway request failed." (some status)

/-- What becomes of a request: its answer arrives, or gets lost, or the request itself does. -/
inductive Delivery where
  | answered
  | lost (fault : Fault)
  | undelivered (fault : Fault)
deriving DecidableEq

/-- `"approve" | "reject" | "request-changes"`. -/
inductive Decision where
  | approve | reject | requestChanges
deriving DecidableEq

/-- The target of the route that a decision is sent to. -/
def Decision.target : Decision → ApprovalRequestStatus
  | .approve => .APPROVED
  | .reject => .REJECTED
  | .requestChanges => .CHANGES_REQUESTED

/-- A call of `submitApprovalDecision`: its input, the time, and what becomes of its requests. -/
structure Submission where
  tenantId : String
  approvalId : String
  expectedVersion : Int
  decision : Decision
  comment : String
  dateNow : Nat
  fetching : Delivery
  deciding : Delivery
  retrying : Delivery

section

variable [TokenLibrary] [Sha256]

end

/-! ## What the gateway stores -/

/-- The call of the repository that a submission comes down to. -/
def Submission.call (submission : Submission) (comment : String) (decidedAt : Time) : DecideCall where
  tenantId := submission.tenantId
  approvalId := submission.approvalId
  target := submission.decision.target
  expectedVersion := submission.expectedVersion.toNat
  decidedBy := operatorSubject
  decidedByRoles := [.APPROVER]
  comment := comment
  decidedAt := decidedAt

/-- The submitted decision is the stored one. -/
structure Submission.IsDecision (submission : Submission) (record : ApprovalRequestRecord) : Prop where
  status : record.status = submission.decision.target
  version : (record.version : Int) = submission.expectedVersion + 1
  decider : record.decidedBy = some operatorSubject
  roles : record.decidedByRoles = [.APPROVER]
  comment : (nonEmptyStr (trim submission.comment)).map some = .ok record.comment

def Submission.Stored (submission : Submission) (w : GatewayWorld) : Prop :=
  ∃ record, w.governance.approvals.get? (submission.tenantId, submission.approvalId) = some record ∧
    submission.IsDecision record

section

variable [Sha256]

/-- The store has been worked on, by whomever. -/
def Served (a b : GatewayWorld) : Prop := ∃ calls, b.governance = a.governance.after calls

/-- The approvals stay as they are, or the submission makes the first decision on its approval. -/
def Submission.Decides (submission : Submission) (a b : GatewayWorld) : Prop :=
  b.governance.approvals = a.governance.approvals ∨
    ∃ comment decidedAt current updated,
      nonEmptyStr (trim submission.comment) = .ok comment ∧
      a.governance.approvals.get? (submission.tenantId, submission.approvalId) = some current ∧
      FirstDecision current (submission.call comment decidedAt) ∧
      updated.toApprovalRequestFields = current.decidedFields (submission.call comment decidedAt) ∧
      b.governance.approvals =
        a.governance.approvals.set (submission.tenantId, submission.approvalId) updated

/-- What a submission may do to the store. -/
def Submission.Acts (submission : Submission) (a b : GatewayWorld) : Prop :=
  Served a b ∧ submission.Decides a b

omit [Sha256] in
theorem target_ne_pending (decision : Decision) : decision.target ≠ .PENDING := by
  cases decision <;> decide

/-- What is stored stays. -/
theorem Submission.Stored.served {submission : Submission} {a b : GatewayWorld}
    (h : submission.Stored a) (hserved : Served a b) : submission.Stored b := by
  obtain ⟨record, hget, hdecision⟩ := h
  obtain ⟨calls, hb⟩ := hserved
  have hdecided : record.status ≠ .PENDING := by
    rw [hdecision.status]
    exact target_ne_pending submission.decision
  refine ⟨record, ?_, hdecision⟩
  rw [hb]
  exact GovernanceRepository.decided_stays_after hget hdecided calls

end

/-! ## What the gateway answers -/

/-- An exception that is not answered like a callback that failed. -/
def Quiet (e : GatewayExn) : Prop := problemOf e ≠ (503, callbackDeliveryError.detail)

/-- The outcome of a request, with what holds of a result, and what when the callback has failed. -/
structure Answers {α : Type} (result : α → GatewayWorld → Prop) (failed : GatewayWorld → Prop)
    (r : Except GatewayExn α) (w : GatewayWorld) : Prop where
  result : ∀ a, r = .ok a → result a w
  failed : ∀ e, r = .error e → ¬ Quiet e → failed w

section

variable {α : Type} {result : α → GatewayWorld → Prop} {failed : GatewayWorld → Prop} {w : GatewayWorld}

theorem Answers.of_quiet {e : GatewayExn} (h : Quiet e) : Answers result failed (.error e) w := by
  constructor
  · intro a ha
    cases ha
  · rintro _ ⟨⟩ hloud
    exact absurd h hloud

theorem Answers.imp {failed' : GatewayWorld → Prop} {r : Except GatewayExn α}
    (h : Answers result failed r w) (hfailed : failed w → failed' w) : Answers result failed' r w :=
  ⟨h.result, fun e he hloud => hfailed (h.failed e he hloud)⟩

end

/-- Whose the requests of a submission are. -/
structure Submission.Authenticated (submission : Submission) (identity : VerifiedIdentity) : Prop where
  subject : identity.subject = operatorSubject
  tenant : identity.tenantId = submission.tenantId
  roles : identity.roles = [.APPROVER]

section

variable [Sha256] {submission : Submission} {w : GatewayWorld} {α : Type}

end

section

variable [TokenLibrary] [Sha256] {submission : Submission} {verifier : HmacIdentityVerifier}
  {w : GatewayWorld} {α : Type}

end

/-! ## Any number of submissions -/

/-- Two submissions that decide the same. -/
structure Submission.Agrees (submission other : Submission) : Prop where
  decision : submission.decision = other.decision
  version : submission.expectedVersion = other.expectedVersion
  comment : nonEmptyStr (trim submission.comment) = nonEmptyStr (trim other.comment)

theorem target_injective {decision other : Decision} (h : decision.target = other.target) :
    decision = other := by
  cases decision <;> cases other <;> first | rfl | exact absurd h (by decide)

theorem map_some_injective {α ε : Type} {r r' : Except ε α} (h : r.map some = r'.map some) : r = r' := by
  cases r with
  | ok a =>
    cases r' with
    | ok a' =>
      cases h
      rfl
    | error e => cases h
  | error e =>
    cases r' with
    | ok a' => cases h
    | error e' =>
      cases h
      rfl

/-- One approval stores one decision. -/
theorem Submission.Stored.agrees {submission other : Submission} {w : GatewayWorld}
    (h : submission.Stored w) (h' : other.Stored w) (htenant : submission.tenantId = other.tenantId)
    (happroval : submission.approvalId = other.approvalId) : submission.Agrees other := by
  obtain ⟨record, hget, hdecision⟩ := h
  obtain ⟨record', hget', hdecision'⟩ := h'
  rw [htenant, happroval, hget', Option.some.injEq] at hget
  subst hget
  constructor
  · exact target_injective (hdecision.status.symm.trans hdecision'.status)
  · have hversion := hdecision.version
    have hversion' := hdecision'.version
    omega
  · exact map_some_injective (hdecision.comment.trans hdecision'.comment.symm)

namespace OperatorDemo

local instance : TokenLibrary := tokens

open Callback Overlap

/-- The coordinator does not answer the first callback. -/
def sandboxGateway : ToolGateway := { unreachable with
  runtime := { unreachable.runtime with
    clock := fun n => instantOf 1790000000 + unreachable.runtime.clock n
    clock_mono := fun h => Nat.add_le_add_left (unreachable.runtime.clock_mono h) _ } }

def creation : CreationRequest := { Evidence.creation with
  body := { Evidence.creation.body with expiresAt := instantOf 1790001800 } }

def pending : GatewayWorld := ((createApproval sandboxGateway creation).runFor 5 Evidence.world).2

def approval : Submission where
  tenantId := "tenant_demo"
  approvalId := "approval_001"
  expectedVersion := 1
  decision := .approve
  comment := " Verified in the sandbox. "
  dateNow := 1790000000456
  fetching := .answered
  deciding := .answered
  retrying := .answered

end OperatorDemo

end ChangeOps.ControlTower
