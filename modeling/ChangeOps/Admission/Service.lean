import ChangeOps.Admission.Models
import ChangeOps.Lib.Transaction
import ChangeOps.Contracts.Canonical

/-!
# ChangeOps.Admission — the admission service

`control_api/admission/service.py` over the `MemoryStore` of `store.py`: every operation is one
transaction on the documents, and `redeem` reads a view in a second one.

What a call draws or meets outside the store (the clock, `uuid4`, the token, the accesses that
fail) is its `Ambient`.
-/

namespace ChangeOps.Admission

open Transaction (get put raise ofExcept)

abbrev MemoryStore := Dict String Document

abbrev Tx (α : Type) := Transaction String Document AdmissionError α

/-- `str.lower`. -/
class Casing where
  lower : String → String

/-- What one call meets outside the store. -/
structure Ambient where
  /-- `secrets.token_urlsafe(32)`. -/
  token : String
  /-- The `uuid4` of the new record. -/
  resourceHex : Hex
  /-- The `uuid4` of the audit event. -/
  auditHex : Hex
  /-- The clock of the checks. -/
  now : Time
  /-- The clock of the audit event. -/
  auditedAt : Time
  /-- The accesses that fail in the call's own transaction. -/
  faults : Faults AdmissionError
  /-- The accesses that fail after it: in the view that `redeem` returns, in a listing. -/
  viewFaults : Faults AdmissionError

def denied : AdmissionError :=
  .controlApi "access_denied" "Access has not been granted for this operation." 403

def alreadyBootstrapped : AdmissionError :=
  .controlApi "already_bootstrapped" "Owner is already initialized." 409

def versionConflict : AdmissionError :=
  .controlApi "version_conflict" "Refresh this record before updating." 409

def raiseIf (refused : Bool) (e : AdmissionError) : Tx Unit := if refused then raise e else pure ()

/-- `document[field]`. -/
def item (document : Document) (field : String) : Except AdmissionError Value :=
  match document.get? field with
  | some value => .ok value
  | none => .error (.key field)

/-! ## Paths -/

section Service

variable [Sha256]

def userKey (subject : String) : String := Sha256.hexdigest subject

def usersPath (identifier : String) : String := "admission_users/" ++ identifier

def userPath (subject : String) : String := usersPath (userKey subject)

def organizationPath (organizationId : String) : String :=
  "admission_organizations/" ++ organizationId

def membersPath (organizationId identifier : String) : String :=
  organizationPath (organizationId ++ "/members/" ++ identifier)

def memberPath (organizationId subject : String) : String :=
  membersPath organizationId (userKey subject)

def invitationPath (identifier : String) : String := "admission_invitations/" ++ identifier

def auditPath (eventId : String) : String := "admission_audit/" ++ eventId

def bootstrapPath : String := "admission_metadata/bootstrap"

/-! ## Helpers -/

def readUser (subject : String) : Tx (Option User) := do
  match ← get (userPath subject) with
  | none => return none
  | some document => return some (← ofExcept (User.modelValidate document))

def requireAdmin (identity : Identity) : Tx User := do
  match ← readUser identity.subject.1 with
  | none => raise denied
  | some user =>
    raiseIf (!user.active || !user.platformAdmin || !identity.mfa) denied
    return user

def auditEvent (a : Ambient) (actor action resourceId : String) : AdmissionAudit :=
  ⟨a.auditHex.eventId, Text.strip actor, Text.strip action, Text.strip resourceId, a.auditedAt⟩

/-- `_audit`. -/
def audit (a : Ambient) (actor action resourceId : String) : Tx Unit :=
  let event := auditEvent a actor action resourceId
  put (auditPath event.eventId.1) event.modelDump

omit [Sha256] in
theorem first_pos : 1 ≤ 1 := le_rfl

omit [Sha256] in
theorem User.none_le : ([] : List Identifier).length ≤ 50 := Nat.zero_le 50

/-- `User(subject=subject)`. -/
def User.new (subject : Text) : User :=
  ⟨subject, true, false, false, [], 1, User.none_le, first_pos⟩

/-! ### The copies that the operations write -/

/-- The document of the bootstrap. -/
def bootstrapDocument (subject : String) : Document :=
  ofFields [("owner_subject", .str subject), ("schema_version", .int 1)]

/-- `User(subject=subject, owner=True, platform_admin=True)`. -/
def User.first (subject : String) : User :=
  { User.new (Text.strip subject) with owner := true, platformAdmin := true }

/-- `model_copy(update={"platform_admin": ..., "version": target.version + 1})`. -/
def User.appoint (target : User) (platformAdmin : Bool) : User :=
  { target with
    platformAdmin := platformAdmin
    version := target.version + 1
    version_pos := target.next_pos }

omit [Sha256] in
theorem Invitation.next_pos (invitation : Invitation) : 1 ≤ invitation.version + 1 :=
  Nat.le_add_left 1 invitation.version

omit [Sha256] in
theorem Membership.next_pos (member : Membership) : 1 ≤ member.version + 1 :=
  Nat.le_add_left 1 member.version

/-- `model_copy(update={"redeemed_by": ..., "version": invitation.version + 1})`. -/
def Invitation.redeem (invitation : Invitation) (subject : Text) : Invitation :=
  { invitation with
    redeemedBy := some subject
    version := invitation.version + 1
    version_pos := invitation.next_pos }

/-- `model_copy(update={"revoked": True, "version": invitation.version + 1})`. -/
def Invitation.revoke (invitation : Invitation) : Invitation :=
  { invitation with
    revoked := true
    version := invitation.version + 1
    version_pos := invitation.next_pos }

/-- `model_copy(update={"active": ..., "role": ..., "version": member.version + 1})`. -/
def Membership.update (member : Membership) (request : MembershipUpdate) : Membership :=
  { member with
    active := request.active
    role := request.role
    version := member.version + 1
    version_pos := member.next_pos }

/-! ## Operations -/

def bootstrapOwner (a : Ambient) (subject : String) :
    MemoryStore → Except AdmissionError Unit × MemoryStore :=
  let operation : Tx Unit := do
    match ← get bootstrapPath with
    | some _ => raise alreadyBootstrapped
    | none =>
      match ← readUser subject with
      | some _ => raise alreadyBootstrapped
      | none =>
        put (userPath subject) (User.first subject).modelDump
        put bootstrapPath (bootstrapDocument subject)
        audit a subject "owner_bootstrapped" (userKey subject)
  operation.transact a.faults

structure Workspace where
  organization : Organization
  membership : Membership

structure AccessView where
  subject : Text
  email : Email
  platformAdmin : Bool
  owner : Bool
  status : String
  workspaces : List Workspace

/-- The loop of `access`. -/
def workspacesOf (identity : Identity) : List Identifier → Tx (List Workspace)
  | [] => pure []
  | organizationId :: rest => do
    let org ← get (organizationPath organizationId.1)
    let member ← get (memberPath organizationId.1 identity.subject.1)
    match org, member with
    | some org, some member =>
      let workspace : Workspace :=
        ⟨← ofExcept (Organization.modelValidate org), ← ofExcept (Membership.modelValidate member)⟩
      let workspaces ← workspacesOf identity rest
      if workspace.organization.active && workspace.membership.active then
        return workspace :: workspaces
      else return workspaces
    | _, _ => workspacesOf identity rest

/-- The view of a user with some workspaces. -/
def accessView (identity : Identity) (user : Option User) (workspaces : List Workspace) :
    AccessView :=
  let admin := user.any fun user => user.active && user.platformAdmin && identity.mfa
  let status :=
    if user.any fun user => !user.active then "suspended"
    else if user.any fun user => user.platformAdmin && !identity.mfa then "mfa_required"
    else if !workspaces.isEmpty || admin then "active" else "not_admitted"
  ⟨identity.subject, identity.email, admin, admin && user.any (·.owner), status, workspaces⟩

def accessOperation (identity : Identity) : Tx AccessView := do
  let user ← readUser identity.subject.1
  match user with
  | some found =>
    if found.active then
      return accessView identity user (← workspacesOf identity found.organizationIds)
    else return accessView identity user []
  | none => return accessView identity user []

def access (faults : Faults AdmissionError) (identity : Identity) :
    MemoryStore → Except AdmissionError AccessView × MemoryStore :=
  (accessOperation identity).transact faults

def workspace (faults : Faults AdmissionError) (identity : Identity) (organizationId : String)
    (store : MemoryStore) : Except AdmissionError Workspace := do
  let view ← (access faults identity store).1
  match view.workspaces.find? fun w => w.organization.organizationId.1 == organizationId with
  | some w => .ok w
  | none => .error denied

def createOrganization (a : Ambient) (identity : Identity) (name : String) (store : MemoryStore) :
    Except AdmissionError Organization × MemoryStore :=
  match Organization.modelValidate
    (ofFields [("organization_id", .str a.resourceHex.organizationId.1), ("name", .str name)]) with
  | .error e => (.error e, store)
  | .ok organization =>
    let operation : Tx Organization := do
      let _ ← requireAdmin identity
      put (organizationPath organization.organizationId.1) organization.modelDump
      audit a identity.subject.1 "organization_created" organization.organizationId.1
      return organization
    operation.transact a.faults store

/-- `timedelta(hours=24)`. -/
def invitationLifetime : Time := Time.minutes (24 * 60)

/-- The invitation that `invite` constructs. -/
def Invitation.issue (a : Ambient) (identity : Identity) (request : InvitationCreate)
    (email : Email) : Invitation :=
  ⟨a.resourceHex.invitationId, email, request.organizationId, request.role, identity.subject,
    a.now + invitationLifetime, none, false, 1, first_pos⟩

/-- The membership that `redeem` constructs. -/
def Invitation.member (invitation : Invitation) (subject : Text) : Membership :=
  ⟨subject, invitation.organizationId, invitation.role, true, 1, first_pos⟩

variable [Casing]

def invite (a : Ambient) (identity : Identity) (request : InvitationCreate) (store : MemoryStore) :
    Except AdmissionError (Invitation × String) × MemoryStore :=
  -- the arguments are computed before the record validates them
  if !Time.isDatetime (a.now + invitationLifetime) then (.error .overflow, store)
  else
    match Email.validate (Casing.lower request.email.1) with
    | .error e => (.error e, store)
    | .ok email =>
      let invitation := Invitation.issue a identity request email
      let operation : Tx (Invitation × String) := do
        let _ ← requireAdmin identity
        match ← get (organizationPath request.organizationId.1) with
        | none => raise denied
        | some document =>
          raiseIf (!(← ofExcept (Organization.modelValidate document)).active) denied
          put (invitationPath (Sha256.hexdigest a.token)) invitation.modelDump
          audit a identity.subject.1 "invitation_created" invitation.invitationId.1
          return (invitation, a.token)
      operation.transact a.faults store

def redeemOperation (a : Ambient) (identity : Identity) (token : String) : Tx Unit := do
  let path := invitationPath (Sha256.hexdigest token)
  match ← get path with
  | none => raise denied
  | some document =>
    let invitation ← ofExcept (Invitation.modelValidate document)
    let user ← readUser identity.subject.1
    let inviter ← readUser invitation.invitedBy.1
    let organization ← get (organizationPath invitation.organizationId.1)
    let existing ← get (memberPath invitation.organizationId.1 identity.subject.1)
    raiseIf (invitation.email.1 != Casing.lower identity.email.1 ||
      decide (invitation.expiresAt ≤ a.now) || invitation.redeemedBy.isSome || invitation.revoked ||
      !inviter.any fun inviter => inviter.active && inviter.platformAdmin) denied
    match organization with
    | none => raise denied
    | some organization =>
      raiseIf (!(← ofExcept (Organization.modelValidate organization)).active) denied
    raiseIf (user.any (fun user => !user.active) || existing.isSome) denied
    let user := user.getD (User.new identity.subject)
    -- an invitation cannot silently reactivate or change an existing membership
    let updated ← ofExcept (User.modelValidate (joinOf user invitation.organizationId))
    put (userPath identity.subject.1) updated.modelDump
    put (memberPath invitation.organizationId.1 identity.subject.1)
      (invitation.member identity.subject).modelDump
    put path (invitation.redeem identity.subject).modelDump
    audit a identity.subject.1 "invitation_redeemed" invitation.invitationId.1

def redeem (a : Ambient) (identity : Identity) (token : String) (store : MemoryStore) :
    Except AdmissionError AccessView × MemoryStore :=
  match (redeemOperation a identity token).transact a.faults store with
  | (.error e, store) => (.error e, store)
  | (.ok (), store) => access a.viewFaults identity store

omit [Casing] in
def setStatus (a : Ambient) (identity : Identity) (kind identifier : String)
    (request : StatusUpdate) (store : MemoryStore) : Except AdmissionError Unit × MemoryStore :=
  if kind ≠ "organizations" ∧ kind ≠ "users" then (.error denied, store)
  else
    let path := "admission_" ++ kind ++ "/" ++ identifier
    let operation : Tx Unit := do
      let _ ← requireAdmin identity
      match ← get path with
      | none => raise denied
      | some document =>
        if kind = "users" then
          let target ← ofExcept (User.modelValidate document)
          raiseIf (target.owner || decide (target.subject = identity.subject)) denied
        raiseIf (decide ((← ofExcept (item document "version")) ≠ .int request.expectedVersion))
          versionConflict
        put path (setStatusOf document request)
        audit a identity.subject.1
          (if request.active then "access_activated" else "access_suspended") path
    operation.transact a.faults store

def revokeInvitation (a : Ambient) (identity : Identity) (identifier : String)
    (request : InvitationRevoke) : MemoryStore → Except AdmissionError Unit × MemoryStore :=
  let path := invitationPath identifier
  let operation : Tx Unit := do
    let _ ← requireAdmin identity
    match ← get path with
    | none => raise denied
    | some document =>
      let invitation ← ofExcept (Invitation.modelValidate document)
      raiseIf (decide (invitation.version ≠ request.expectedVersion) || invitation.revoked ||
        invitation.redeemedBy.isSome || decide (invitation.expiresAt ≤ a.now)) versionConflict
      put path invitation.revoke.modelDump
      audit a identity.subject.1 "invitation_revoked" invitation.invitationId.1
  operation.transact a.faults

def updateMembership (a : Ambient) (identity : Identity) (organizationId identifier : String)
    (request : MembershipUpdate) : MemoryStore → Except AdmissionError Unit × MemoryStore :=
  let path := membersPath organizationId identifier
  let operation : Tx Unit := do
    let _ ← requireAdmin identity
    let document ← get path
    let organization ← get (organizationPath organizationId)
    match document, organization with
    | some document, some organization =>
      let member ← ofExcept (Membership.modelValidate document)
      match ← readUser member.subject.1 with
      | none => raise denied
      | some user =>
        raiseIf (decide (member.organizationId.1 ≠ organizationId) ||
          decide (userKey member.subject.1 ≠ identifier) || decide (member.subject = identity.subject) ||
          !(user.organizationIds.map (·.1)).contains organizationId) denied
        raiseIf (decide (member.version ≠ request.expectedVersion)) versionConflict
        if request.active then
          raiseIf (!user.active) denied
          raiseIf (!(← ofExcept (Organization.modelValidate organization)).active) denied
        put path (member.update request).modelDump
        audit a identity.subject.1 "membership_updated" path
    | _, _ => raise denied
  operation.transact a.faults

/-- Only the bootstrapped owner can appoint/revoke admission administrators. -/
def setAdministrator (a : Ambient) (identity : Identity) (identifier : String)
    (request : StatusUpdate) : MemoryStore → Except AdmissionError Unit × MemoryStore :=
  let operation : Tx Unit := do
    let actor ← requireAdmin identity
    raiseIf (!actor.owner) denied
    match ← get (usersPath identifier) with
    | none => raise denied
    | some document =>
      let target ← ofExcept (User.modelValidate document)
      raiseIf (target.owner || !target.active) denied
      raiseIf (decide (target.version ≠ request.expectedVersion)) versionConflict
      put (usersPath identifier) (target.appoint request.active).modelDump
      audit a identity.subject.1
        (if request.active then "administrator_appointed" else "administrator_revoked") identifier
  operation.transact a.faults

def recordRejection (a : Ambient) (actor reason : String) :
    MemoryStore → Except AdmissionError Unit × MemoryStore :=
  (audit a actor "access_rejected" reason).transact a.faults

end Service

/-! ## Lists -/

/-- The record id of a path, if it stands directly in the collection. -/
def recordId (collection path : String) : Option String :=
  let directory := (collection ++ "/").toList
  let id := path.toList.drop directory.length
  if directory.isPrefixOf path.toList && !id.contains '/' then some (String.ofList id) else none

/-- `MemoryStore.list`. -/
def MemoryStore.list (documents : MemoryStore) (collection after : String) (limit : Nat) :
    List Document :=
  let sorted := documents.entries.mergeSort fun x y => decide (x.1 ≤ y.1)
  (sorted.filterMap fun (path, document) =>
    match recordId collection path with
    | some id => if after < id then some (document.set "record_id" (.str id)) else none
    | none => none).take limit

/-- `self.store.list(collection, after=after)`. -/
def listing (a : Ambient) (store : MemoryStore) (collection after : String) :
    Except AdmissionError (List Document) :=
  match a.viewFaults 0 with
  | some e => .error e
  | none => .ok (store.list collection after 50)

/-- An invitation as administrators see it. -/
def invitationRecord (now : Time) (record : Document) : Except AdmissionError Document := do
  let invitation ← Invitation.modelValidate (record.erase "record_id")
  let status :=
    if invitation.revoked then "revoked"
    else if invitation.redeemedBy.isSome then "redeemed"
    else if invitation.expiresAt ≤ now then "expired" else "pending"
  let id ← item record "record_id"
  return (invitation.modelDump.set "record_id" id).set "status" (.str status)

section Lists

variable [Sha256]

def listRecords (a : Ambient) (identity : Identity) (kind after : String) (store : MemoryStore) :
    Except AdmissionError (List Document) :=
  if ["organizations", "users", "audit", "invitations"].contains kind then do
    let _ ← ((requireAdmin identity).transact a.faults store).1
    let records ← listing a store ("admission_" ++ kind) after
    -- normalize older records with no lifecycle fields; never expose a raw token
    if kind = "invitations" then records.mapM (invitationRecord a.now) else return records
  else .error denied

def listMembers (a : Ambient) (identity : Identity) (organizationId after : String)
    (store : MemoryStore) : Except AdmissionError (List Document) := do
  let authorize : Tx Unit := do
    let _ ← requireAdmin identity
    match ← get (organizationPath organizationId) with
    | none => raise denied
    | some _ => pure ()
  let _ ← (authorize.transact a.faults store).1
  listing a store (organizationPath (organizationId ++ "/members")) after

end Lists

/-! ## Calls -/

/-- An operation of the service that only reads, and its arguments. -/
inductive Query where
  | access (identity : Identity)
  | workspace (identity : Identity) (organizationId : String)
  | listRecords (identity : Identity) (kind after : String)
  | listMembers (identity : Identity) (organizationId after : String)

/-- A mutating operation of the service and its arguments. -/
inductive Call where
  | bootstrapOwner (subject : String)
  | createOrganization (identity : Identity) (name : String)
  | invite (identity : Identity) (request : InvitationCreate)
  | redeem (identity : Identity) (token : String)
  | setStatus (identity : Identity) (kind identifier : String) (request : StatusUpdate)
  | revokeInvitation (identity : Identity) (identifier : String) (request : InvitationRevoke)
  | updateMembership (identity : Identity) (organizationId identifier : String)
      (request : MembershipUpdate)
  | setAdministrator (identity : Identity) (identifier : String) (request : StatusUpdate)
  | recordRejection (actor reason : String)

/-- The result of a call without its value. -/
def outcome {α : Type} (r : Except AdmissionError α × MemoryStore) :
    Except AdmissionError Unit × MemoryStore :=
  (r.1.map fun _ => (), r.2)

def Query.run [Sha256] (a : Ambient) (store : MemoryStore) : Query → Except AdmissionError Unit
  | .access identity => (Admission.access a.faults identity store).1.map fun _ => ()
  | .workspace identity organizationId =>
    (Admission.workspace a.faults identity organizationId store).map fun _ => ()
  | .listRecords identity kind after =>
    (Admission.listRecords a identity kind after store).map fun _ => ()
  | .listMembers identity organizationId after =>
    (Admission.listMembers a identity organizationId after store).map fun _ => ()

def Call.run [Sha256] [Casing] (a : Ambient) (store : MemoryStore) :
    Call → Except AdmissionError Unit × MemoryStore
  | .bootstrapOwner subject => Admission.bootstrapOwner a subject store
  | .createOrganization identity name => outcome (Admission.createOrganization a identity name store)
  | .invite identity request => outcome (Admission.invite a identity request store)
  | .redeem identity token => outcome (Admission.redeem a identity token store)
  | .setStatus identity kind identifier request =>
    Admission.setStatus a identity kind identifier request store
  | .revokeInvitation identity identifier request =>
    Admission.revokeInvitation a identity identifier request store
  | .updateMembership identity organizationId identifier request =>
    Admission.updateMembership a identity organizationId identifier request store
  | .setAdministrator identity identifier request =>
    Admission.setAdministrator a identity identifier request store
  | .recordRejection actor reason => Admission.recordRejection a actor reason store

end ChangeOps.Admission
