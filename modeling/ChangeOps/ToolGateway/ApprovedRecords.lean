import ChangeOps.ToolGateway.ApprovalAudit

/-!
# ChangeOps.ToolGateway — what an approved request turns into

`as_approval` (`changeops_tool_gateway/models.py`) makes an `Approval` of an approved request, and
the validators of `Approval` ask for more than those of the request: the decision lies before the
expiry, its roles are unique, and one of them may approve. `Approvable` is what a stored request has
of this. The creation brings the fields, which a decision leaves alone; the decision brings the
rest, from the identity, from the check of the roles, and from the check of the expiry.
-/

namespace ChangeOps

open GovernanceRepository

/-! ## The validators of `Approval` -/

/-- What `as_approval` passes to `Approval`. -/
structure ApprovalDocument where
  approvalId : String
  tenantId : String
  changeId : String
  planId : String
  planHash : String
  planVersion : Nat
  environment : ChangeEnvironment
  decision : ApprovalDecision
  scope : List String
  approvedBy : String
  approvedByRoles : List UserRole
  approvedAt : Time
  expiresAt : Time
  comment : String

/-- `Field(min_length=1)` of a tuple. -/
def atLeastOne {α : Type} : List α → Except Exn (List α)
  | [] => .error (.validationError "Tuple should have at least 1 item after validation, not 0")
  | first :: rest => .ok (first :: rest)

/-- `Field(ge=1)`. -/
def positive (n : Nat) : Except Exn Nat :=
  if n < 1 then .error (.validationError "Input should be greater than or equal to 1") else .ok n

/-- `Approval.model_validate`: the types of the fields, in their order, and `validate_expiration`. -/
def ApprovalDocument.modelValidate (document : ApprovalDocument) : Except Exn Approval := do
  let approvalId ← nonEmptyStr document.approvalId
  let tenantId ← nonEmptyStr document.tenantId
  let changeId ← nonEmptyStr document.changeId
  let planId ← nonEmptyStr document.planId
  let planHash ← digestStr document.planHash
  let planVersion ← positive document.planVersion
  let scope ← document.scope.mapM nonEmptyStr >>= atLeastOne
  let approvedBy ← nonEmptyStr document.approvedBy
  let approvedByRoles ← atLeastOne document.approvedByRoles
  let comment ← nonEmptyStr document.comment
  if hexpires : document.approvedAt < document.expiresAt then
    if hnodup : approvedByRoles.Nodup then
      if hrole : holdsApproverRole approvedByRoles = true then
        return {
          approvalId := approvalId
          tenantId := tenantId
          changeId := changeId
          planId := planId
          planHash := planHash
          planVersion := planVersion
          environment := document.environment
          decision := document.decision
          scope := scope
          approvedBy := approvedBy
          approvedByRoles := approvedByRoles
          approvedAt := document.approvedAt
          expiresAt := document.expiresAt
          comment := comment
          approved_lt_expires := hexpires
          nodup_roles := hnodup
          approver_role := hrole }
      else throw (.validationError "approval requires an APPROVER or PLATFORM_ADMIN role")
    else throw (.validationError "approved_by_roles values must be unique")
  else throw (.validationError "approval expiration must be after the decision time")

/-- The document of an approval. -/
def Approval.document (approval : Approval) : ApprovalDocument where
  approvalId := approval.approvalId
  tenantId := approval.tenantId
  changeId := approval.changeId
  planId := approval.planId
  planHash := approval.planHash
  planVersion := approval.planVersion
  environment := approval.environment
  decision := approval.decision
  scope := approval.scope
  approvedBy := approval.approvedBy
  approvedByRoles := approval.approvedByRoles
  approvedAt := approval.approvedAt
  expiresAt := approval.expiresAt
  comment := approval.comment

namespace ApprovalRequestRecord

/-- `as_approval` with all the validators of `Approval`; `asApproval` leaves out those that the
fields of a request have passed. -/
def asValidApproval (record : ApprovalRequestRecord) : Except GatewayExn (Option Approval) :=
  if record.status ≠ .APPROVED then .ok none
  else match record.decidedBy, record.decidedAt, record.comment with
    | some decidedBy, some decidedAt, some comment =>
        (ApprovalDocument.modelValidate
          { approvalId := record.approvalId
            tenantId := record.tenantId
            changeId := record.changeId
            planId := record.planId
            planHash := record.planHash
            planVersion := record.planVersion
            environment := record.environment
            decision := .APPROVED
            scope := record.scope
            approvedBy := decidedBy
            approvedByRoles := record.decidedByRoles
            approvedAt := decidedAt
            expiresAt := record.expiresAt
            comment := comment }).map some |>.mapError .raised
    | _, _, _ => .error (.raised
        (.other "approved request is missing validated decision metadata"))

end ApprovalRequestRecord

/-- The fields that an approval takes over have passed the types that they share. -/
structure ApprovalRequestFields.Checked (fields : ApprovalRequestFields) : Prop where
  approvalId : nonEmptyStr fields.approvalId = .ok fields.approvalId
  tenantId : nonEmptyStr fields.tenantId = .ok fields.tenantId
  changeId : nonEmptyStr fields.changeId = .ok fields.changeId
  planId : nonEmptyStr fields.planId = .ok fields.planId
  planHash : digestStr fields.planHash = .ok fields.planHash
  planVersion : 1 ≤ fields.planVersion
  scope : ∀ stepId ∈ fields.scope, nonEmptyStr stepId = .ok stepId
  scope_ne_nil : fields.scope ≠ []

/-- The decision is one that an approval may rest on. -/
structure ApprovalRequestFields.Decisive (fields : ApprovalRequestFields) : Prop where
  unexpired : ∀ decidedAt, fields.decidedAt = some decidedAt → decidedAt < fields.expiresAt
  nodup_roles : fields.decidedByRoles.Nodup
  approver_role : holdsApproverRole fields.decidedByRoles = true

structure ApprovalRequestRecord.Approvable (record : ApprovalRequestRecord) : Prop where
  checked : record.Checked
  decisive : record.status ≠ .PENDING → record.Decisive

/-- A list of texts that have been checked is returned as it is. -/
theorem mapM_nonEmptyStr {texts : List String} (h : ∀ text ∈ texts, nonEmptyStr text = .ok text) :
    texts.mapM nonEmptyStr = .ok texts := by
  induction texts with
  | nil => rfl
  | cons text rest ih =>
    rw [List.forall_mem_cons] at h
    rw [List.mapM_cons, h.1, ih h.2]
    rfl

theorem nonEmptyStr_of_some {text : String} (h : nonEmptyStrOrNone (some text) = .ok (some text)) :
    nonEmptyStr text = .ok text := by
  obtain ⟨stripped, hok, heq⟩ := nonEmptyStrOrNone_some.mp h
  cases heq
  exact hok

/-- A decided request has what a decision consists of. -/
theorem ApprovalRequestRecord.decision_of_ne_pending (record : ApprovalRequestRecord)
    (h : record.status ≠ .PENDING) :
    ∃ decidedBy decidedAt comment, record.decidedBy = some decidedBy ∧
      record.decidedAt = some decidedAt ∧ record.comment = some comment ∧
      nonEmptyStr decidedBy = .ok decidedBy ∧ nonEmptyStr comment = .ok comment := by
  have hby := record.decided_by_checked
  have hcomment := record.comment_checked
  have hlife := record.lifecycle
  unfold ApprovalRequestFields.lifecycleError at hlife
  split_ifs at hlife with _ hmissing _
  cases hdecidedBy : record.decidedBy with
  | none => exact absurd ⟨h, Or.inl hdecidedBy⟩ hmissing
  | some decidedBy =>
    cases hdecidedAt : record.decidedAt with
    | none => exact absurd ⟨h, Or.inr (Or.inl hdecidedAt)⟩ hmissing
    | some decidedAt =>
      cases htext : record.comment with
      | none => exact absurd ⟨h, Or.inr (Or.inr htext)⟩ hmissing
      | some comment =>
        rw [hdecidedBy] at hby
        rw [htext] at hcomment
        exact ⟨decidedBy, decidedAt, comment, rfl, rfl, rfl, nonEmptyStr_of_some hby,
          nonEmptyStr_of_some hcomment⟩

theorem atLeastOne_of_ne_nil {α : Type} {list : List α} (h : list ≠ []) :
    atLeastOne list = .ok list := by
  cases list with
  | nil => exact absurd rfl h
  | cons first rest => rfl

theorem ne_nil_of_approverRole {roles : List UserRole} (h : holdsApproverRole roles = true) :
    roles ≠ [] := by
  rintro rfl
  cases h

/-- A document whose fields are checked passes, and is what it becomes. -/
theorem modelValidate_document (approval : Approval)
    (happrovalId : nonEmptyStr approval.approvalId = .ok approval.approvalId)
    (htenantId : nonEmptyStr approval.tenantId = .ok approval.tenantId)
    (hchangeId : nonEmptyStr approval.changeId = .ok approval.changeId)
    (hplanId : nonEmptyStr approval.planId = .ok approval.planId)
    (hplanHash : digestStr approval.planHash = .ok approval.planHash)
    (hversion : 1 ≤ approval.planVersion)
    (hscope : ∀ stepId ∈ approval.scope, nonEmptyStr stepId = .ok stepId)
    (hne : approval.scope ≠ [])
    (happrovedBy : nonEmptyStr approval.approvedBy = .ok approval.approvedBy)
    (hcomment : nonEmptyStr approval.comment = .ok approval.comment) :
    approval.document.modelValidate = .ok approval := by
  have hpositive : positive approval.planVersion = .ok approval.planVersion := if_neg (by omega)
  have hsteps : approval.scope.mapM nonEmptyStr = .ok approval.scope := mapM_nonEmptyStr hscope
  have hsome : atLeastOne approval.scope = .ok approval.scope := atLeastOne_of_ne_nil hne
  have hroles : atLeastOne approval.approvedByRoles = .ok approval.approvedByRoles :=
    atLeastOne_of_ne_nil (ne_nil_of_approverRole approval.approver_role)
  unfold ApprovalDocument.modelValidate Approval.document
  simp only [happrovalId, htenantId, hchangeId, hplanId, hplanHash, hpositive, hsteps, hsome,
    happrovedBy, hroles, hcomment, bind, Except.bind, approval.approved_lt_expires, approval.nodup_roles,
    approval.approver_role, dif_pos]
  rfl

/-- An approvable request that is approved turns into its approval. -/
theorem ApprovalRequestRecord.Approvable.approval {record : ApprovalRequestRecord}
    (h : record.Approvable) (happroved : record.status = .APPROVED) :
    ∃ approval : Approval, record.asValidApproval = .ok (some approval) ∧
      record.asApproval = .ok (some approval) ∧
      approval.document.modelValidate = .ok approval ∧ approval.scope ≠ [] := by
  have hpending : record.status ≠ .PENDING := by
    rw [happroved]
    decide
  obtain ⟨decidedBy, decidedAt, comment, hdecidedBy, hdecidedAt, hcomment, hby, htext⟩ :=
    record.decision_of_ne_pending hpending
  have hdecisive := h.decisive hpending
  have hunexpired := hdecisive.unexpired decidedAt hdecidedAt
  have hroles := ne_nil_of_approverRole hdecisive.approver_role
  have hasApproval : ∃ approval : Approval, record.asApproval = .ok (some approval) ∧
      approval.document = ⟨record.approvalId, record.tenantId, record.changeId, record.planId,
        record.planHash, record.planVersion, record.environment, .APPROVED, record.scope, decidedBy,
        record.decidedByRoles, decidedAt, record.expiresAt, comment⟩ := by
    unfold ApprovalRequestRecord.asApproval
    rw [if_neg (not_not.mpr happroved), hdecidedBy, hdecidedAt, hcomment]
    simp only [hroles, if_false, hunexpired, hdecisive.nodup_roles, hdecisive.approver_role,
      dif_pos]
    exact ⟨_, rfl, rfl⟩
  obtain ⟨approval, heq, hdocument⟩ := hasApproval
  have hchecked := h.checked
  have hvalid : approval.document.modelValidate = .ok approval := by
    have hfields := hdocument
    simp only [Approval.document, ApprovalDocument.mk.injEq] at hfields
    obtain ⟨hid, htenant, hchange, hplan, hhash, hversion, -, -, hscope, happrovedBy, -, -, -,
      hcommentEq⟩ := hfields
    refine modelValidate_document approval ?_ ?_ ?_ ?_ ?_ ?_ ?_ ?_ ?_ ?_
    · rw [hid]
      exact hchecked.approvalId
    · rw [htenant]
      exact hchecked.tenantId
    · rw [hchange]
      exact hchecked.changeId
    · rw [hplan]
      exact hchecked.planId
    · rw [hhash]
      exact hchecked.planHash
    · rw [hversion]
      exact hchecked.planVersion
    · rw [hscope]
      exact hchecked.scope
    · rw [hscope]
      exact hchecked.scope_ne_nil
    · rw [happrovedBy]
      exact hby
    · rw [hcommentEq]
      exact htext
  have hscope : approval.scope = record.scope := congrArg ApprovalDocument.scope hdocument
  refine ⟨approval, ?_, heq, hvalid, ?_⟩
  · rw [hdocument] at hvalid
    unfold asValidApproval
    rw [if_neg (not_not.mpr happroved), hdecidedBy, hdecidedAt, hcomment]
    dsimp only
    rw [hvalid]
    rfl
  · rw [hscope]
    exact hchecked.scope_ne_nil

/-! ## The handlers -/

/-- The body of `create_approval` has passed the types of its fields. -/
structure ApprovalCreateRequest.Checked (body : ApprovalCreateRequest) : Prop where
  approvalId : nonEmptyStr body.approvalId = .ok body.approvalId
  tenantId : nonEmptyStr body.plan.tenantId = .ok body.plan.tenantId
  changeId : nonEmptyStr body.plan.changeId = .ok body.plan.changeId
  planId : nonEmptyStr body.plan.planId = .ok body.plan.planId
  scope : ∀ stepId ∈ body.scope, nonEmptyStr stepId = .ok stepId

/-- Bodies that have been validated, at any time; in between everything but the approvals may become
whatever it will. -/
def approvalRequests : Actor ApprovalCall → GatewayWorld → GatewayWorld → Prop
  | .start (.create request), _, _ => request.body.Checked
  | .start (.decide _), _, _ => True
  | .by _, _, _ => True
  | .env, w, w' => w'.governance.approvals = w.governance.approvals

/-- Every stored request is approvable. -/
def ApprovableInv (w : GatewayWorld) : Prop :=
  ∀ key record, w.governance.approvals.get? key = some record → record.Approvable

def approvableRely : Rely GatewayWorld where
  rel w w' := ApprovableInv w → ApprovableInv w'
  refl _ := id
  trans hab hbc h := hbc (hab h)

/-- The triple of a part of a handler. -/
abbrev KeepsApprovable {α : Type} (Q : Except GatewayExn α → GatewayWorld → Prop)
    (p : GatewayAction α) (w : GatewayWorld) : Prop :=
  p.RG approvableRely approvableRely.rel Q w

theorem approvable_of_eq {w w' : GatewayWorld}
    (h : w'.governance.approvals = w.governance.approvals) (hw : ApprovableInv w) :
    ApprovableInv w' := by
  intro key record hget
  rw [h] at hget
  exact hw key record hget

theorem approvable_set {w w' : GatewayWorld} {key : String × String} {record : ApprovalRequestRecord}
    (h : w'.governance.approvals = w.governance.approvals.set key record)
    (hrecord : ApprovableInv w → record.Approvable) (hw : ApprovableInv w) : ApprovableInv w' := by
  intro key' record' hget
  rw [h, Dict.get?_set] at hget
  split_ifs at hget
  · cases hget
    exact hrecord hw
  · exact hw key' record' hget

section

variable {w : GatewayWorld} {gateway : ToolGateway}

theorem KeepsApprovable.bystand {α : Type} {p : GatewayAction α} (hp : Bystands p) :
    KeepsApprovable (fun _ _ => True) p w :=
  hp.keeps (fun h => approvable_of_eq h.approvals) (fun _ _ => trivial) (fun _ _ => trivial) trivial

/-- A decision that is stored is one that an approval may rest on. -/
theorem decisive_decided {current updated : ApprovalRequestRecord} {call : DecideCall}
    (hunexpired : call.decidedAt < current.expiresAt) (hnodup : call.decidedByRoles.Nodup)
    (hrole : holdsApproverRole call.decidedByRoles = true)
    (hfields : updated.toApprovalRequestFields = current.decidedFields call) :
    updated.Decisive := by
  rw [hfields]
  refine ⟨?_, hnodup, hrole⟩
  intro decidedAt hdecidedAt
  cases hdecidedAt
  exact hunexpired

theorem checked_decided {current updated : ApprovalRequestRecord} {call : DecideCall}
    (h : current.Checked)
    (hfields : updated.toApprovalRequestFields = current.decidedFields call) : updated.Checked := by
  rw [hfields]
  exact ⟨h.approvalId, h.tenantId, h.changeId, h.planId, h.planHash, h.planVersion, h.scope,
    h.scope_ne_nil⟩

theorem KeepsApprovable.decideAction (identity : VerifiedIdentity) {call : DecideCall}
    (hnodup : call.decidedByRoles.Nodup) (hrole : holdsApproverRole call.decidedByRoles = true) :
    KeepsApprovable (fun _ _ => True) (decideAction identity call) w := by
  refine Prog.RG.atomic fun t _ => ⟨?_, fun _ _ => trivial⟩
  rcases decideApproval_cases call t.governance with ⟨e, heq⟩ | ⟨current, -, -, -, heq⟩ |
    ⟨current, updated, hget, -, -, hunexpired, -, hvalid, heq⟩
  · simp only [heq]
    exact approvable_of_eq rfl
  · simp only [heq]
    exact approvable_of_eq rfl
  · simp only [heq]
    obtain ⟨-, -, hfields⟩ := modelValidate_decidedDocument.mp hvalid
    refine approvable_set rfl fun ht => ?_
    exact ⟨checked_decided (ht _ _ hget).checked hfields,
      fun _ => decisive_decided hunexpired hnodup hrole hfields⟩

variable [Sha256]

omit [Sha256] in
/-- `_require_roles` leaves identities with a role that may approve. -/
theorem approverRole_of_requireRoles {identity : VerifiedIdentity}
    (h : requireRoles identity [.APPROVER, .PLATFORM_ADMIN] = .ok ()) :
    holdsApproverRole identity.roles = true := by
  unfold requireRoles at h
  split_ifs at h with hroles
  obtain ⟨role, hmem, hcontains⟩ := List.any_eq_true.mp (of_not_not (not_or.mp hroles).2)
  simp only [List.contains_eq_mem, List.mem_cons, List.not_mem_nil, or_false,
    decide_eq_true_eq] at hcontains
  unfold holdsApproverRole
  rw [Bool.or_eq_true]
  rcases hcontains with rfl | rfl
  · exact Or.inl (List.contains_iff_mem.mpr hmem)
  · exact Or.inr (List.contains_iff_mem.mpr hmem)

theorem KeepsApprovable.decide (request : DecisionRequest) :
    KeepsApprovable (fun _ _ => True) (decideApprovalRequest gateway request) w := by
  unfold decideApprovalRequest
  dsimp only
  cases hroles : requireRoles request.identity [.APPROVER, .PLATFORM_ADMIN] with
  | error e => exact fun _ _ => trivial
  | ok _ =>
    have hrole := approverRole_of_requireRoles hroles
    refine (bystand (Bystands.gatewayNow gateway)).bind (fun timestamp t _ => ?_) fun _ _ _ => trivial
    refine (KeepsApprovable.decideAction request.identity request.identity.nodup_roles hrole).bind
      (fun record t _ => ?_) fun _ _ _ => trivial
    exact bystand (Bystands.bind (Bystands.auditApproval _ _ _ _ _ _) fun _ =>
      Bystands.bind (Bystands.notifyCallback _ _) fun _ => Bystands.ret _)

/-- The record of a checked body. -/
theorem approvable_record (hvalid : ∀ document, digestStr (sha256Digest document) =
      .ok (sha256Digest document)) {body : ApprovalCreateRequest} (h : body.Checked)
    (requestedBy : String) (createdAt : Time) (hexpires : createdAt < body.expiresAt) :
    (body.record requestedBy createdAt hexpires).Approvable where
  checked := ⟨h.approvalId, h.tenantId, h.changeId, h.planId, hvalid _, body.plan.version_pos, h.scope,
    body.scope_ne_nil⟩
  decisive hpending := absurd rfl hpending

theorem KeepsApprovable.create (hvalid : ∀ document, digestStr (sha256Digest document) =
      .ok (sha256Digest document)) {request : CreationRequest} (h : request.body.Checked) :
    KeepsApprovable (fun _ _ => True) (createApproval gateway request) w := by
  unfold createApproval
  dsimp only
  split_ifs
  · exact fun _ _ => trivial
  · exact fun _ _ => trivial
  · refine (bystand (Bystands.gatewayNow gateway)).bind (fun createdAt t _ => ?_) fun _ _ _ => trivial
    split_ifs with hexpires
    · exact fun _ _ => trivial
    · refine (bystand (Bystands.read _)).bind (fun change t _ => ?_) fun _ _ _ => trivial
      split_ifs
      · exact fun _ _ => trivial
      · exact fun _ _ => trivial
      · have hcreate : KeepsApprovable (fun _ _ => True) (createAction (request.body.record
            request.identity.subject createdAt hexpires) request.body.plan) t := by
          refine Prog.RG.atomic fun t _ => ⟨?_, fun _ _ => trivial⟩
          rcases createApprovalRequest_cases (request.body.record request.identity.subject createdAt
            hexpires) request.body.plan t.governance with ⟨e, heq⟩ |
            ⟨_, _, -, -, -, -, -, -, heq⟩ | ⟨_, -, -, -, heq⟩
          · simp only [heq]
            exact approvable_of_eq rfl
          · simp only [heq]
            exact approvable_of_eq rfl
          · simp only [heq]
            exact approvable_set rfl fun _ => approvable_record hvalid h _ _ hexpires
        refine hcreate.bind (fun stored t _ => ?_) fun _ _ _ => trivial
        split_ifs
        · exact bystand (Bystands.bind (Bystands.auditApproval _ _ _ _ _ _) fun _ => Bystands.ret _)
        · exact fun _ _ => trivial
    · exact fun _ _ => trivial

theorem sound_approvals (hvalid : ∀ document, digestStr (sha256Digest document) =
      .ok (sha256Digest document)) :
    Pool.Sound (ApprovalCall.handler gateway) approvalRequests approvableRely
      (fun _ => approvableRely.rel) (fun _ _ _ => True) ApprovableInv where
  guarantee _ _ _ _ _ _ hg := hg
  environment _ _ hok := approvable_of_eq hok
  invariant _ _ hinv hrely := hrely hinv
  triple call _ _ _ hok := by
    cases call with
    | create request => exact (KeepsApprovable.create hvalid hok).start
    | decide request => exact (KeepsApprovable.decide request).start

/-- **`as_approval`.** It never raises on a stored request: one that is not approved has no approval,
and that of an approved one passes every validator of `Approval`. -/
theorem asApproval_of_stored (gateway : ToolGateway)
    (hvalid : ∀ document, digestStr (sha256Digest document) = .ok (sha256Digest document))
    {start : GatewayWorld} (hstart : start.governance = .empty)
    {P : Pool ApprovalCall GatewayWorld GatewayExn ApprovalRequestRecord}
    (hreach : Pool.Reach (ApprovalCall.handler gateway) approvalRequests (.idle start) P)
    {key : String × String} {record : ApprovalRequestRecord}
    (hget : P.state.governance.approvals.get? key = some record) :
    (record.status ≠ .APPROVED → record.asValidApproval = .ok none) ∧
      (record.status = .APPROVED → ∃ approval : Approval,
        record.asValidApproval = .ok (some approval) ∧ record.asApproval = .ok (some approval) ∧
        approval.document.modelValidate = .ok approval ∧ approval.approvedAt < approval.expiresAt ∧
        approval.approvedByRoles.Nodup ∧ holdsApproverRole approval.approvedByRoles = true ∧
        approval.scope ≠ []) := by
  have hinv : ApprovableInv start := by
    intro key record hget
    rw [hstart] at hget
    cases hget
  have hrecord := ((sound_approvals hvalid).holds hinv hreach).inv key record hget
  refine ⟨fun hother => if_pos hother, fun happroved => ?_⟩
  obtain ⟨approval, hfull, has, hvalidates, hscope⟩ := hrecord.approval happroved
  exact ⟨approval, hfull, has, hvalidates, approval.approved_lt_expires, approval.nodup_roles,
    approval.approver_role, hscope⟩

end

/-! ## A request that is created and approved -/

namespace Evidence

open Overlap

theorem creation_checked : creation.body.Checked := by
  constructor
  all_goals
    unfold nonEmptyStr stripWhitespace
    decide

theorem digestStr_overlap (document : Json) :
    digestStr (sha256Digest document) = .ok (sha256Digest document) := by
  show digestStr ("sha256:" ++ String.ofList (List.replicate 64 '0')) =
    .ok ("sha256:" ++ String.ofList (List.replicate 64 '0'))
  decide +kernel

def given : Pool ApprovalCall GatewayWorld GatewayExn ApprovalRequestRecord :=
  Pool.play (ApprovalCall.handler gateway) (.idle world)
    (.start (.create creation) :: List.replicate 5 (.move 0 false) ++
      .start (.decide decision) :: List.replicate 5 (.move 1 false))

theorem given_status :
    (given.state.governance.approvals.get? creation.body.key).map (·.status) = some .APPROVED := by
  decide +kernel

theorem reach_given :
    Pool.Reach (ApprovalCall.handler gateway) approvalRequests (.idle world) given := by
  refine Pool.reach_play (fun _ _ _ => trivial) _ ?_ _
  intro call w w' hmem
  simp only [List.cons_append, List.mem_cons, List.mem_append, List.mem_replicate,
    Turn.start.injEq, reduceCtorEq, and_false, or_false, false_or] at hmem
  rcases hmem with rfl | rfl
  · exact creation_checked
  · trivial

end Evidence

open Evidence Overlap in
/-- The approval of the request that is created and approved. -/
theorem asApproval_of_stored_given : ∃ record approval,
    given.state.governance.approvals.get? creation.body.key = some record ∧
      record.asValidApproval = .ok (some approval) := by
  obtain ⟨record, hget, happroved⟩ := Option.map_eq_some_iff.mp given_status
  obtain ⟨approval, heq, -⟩ :=
    (asApproval_of_stored gateway digestStr_overlap rfl reach_given hget).2 happroved
  exact ⟨record, approval, hget, heq⟩

end ChangeOps
