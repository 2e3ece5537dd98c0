import ChangeOps.Admission.Enrolment

/-!
# ChangeOps.Admission — who has access

Current access is the outcome of a history. A membership was created by a redemption
(`Admits`), and its role is that of its last update (`lastUpdate`), or that of the invitation. A
workspace is open as long as the user, the organization and the membership are all active.
-/

namespace ChangeOps.Admission

section Workspaces

variable [Sha256] [Casing]

/-- The event is a redemption of the invitation by the subject, and creates the membership. -/
structure Admits (earlier : History) (event : Event) (subject : Text) (organizationId : Identifier)
    (invitation : Invitation) : Prop where
  redeems : ∃ identity token, event.call = .redeem identity token ∧ identity.subject = subject ∧
    (registry (after earlier)).invitation (Sha256.hexdigest token) = some invitation ∧
    invitation.email.1 = Casing.lower identity.email.1
  organization : invitation.organizationId = organizationId
  unexpired : event.ambient.now < invitation.expiresAt
  unrevoked : invitation.revoked = false
  inviter : ∃ inviter, (registry (after earlier)).user (userKey invitation.invitedBy.1) = some inviter ∧
    inviter.active = true ∧ inviter.platformAdmin = true
  absent : (registry (after earlier)).member organizationId (userKey subject.1) = none
  created : ((registry (after (event :: earlier))).member organizationId
    (userKey subject.1)).isSome = true

/-- The role that the event gives to the membership at a key, as a successful update. -/
def updatedRole (organizationId : Identifier) (key : String) (event : Event) (history : History) :
    Option Role :=
  match event.call with
  | .updateMembership _ id identifier request =>
    if id = organizationId.1 ∧ identifier = key ∧ Succeeds event history then some request.role
    else none
  | _ => none

/-- The role of the last successful update among the later events. -/
def lastUpdate (organizationId : Identifier) (key : String) (earlier : History) :
    History → Option Role
  | [] => none
  | event :: later => (updatedRole organizationId key event (later ++ earlier)).or
      (lastUpdate organizationId key earlier later)

/-- The membership at a key has a role that its history gives it. -/
def Granted (history : History) (organizationId : Identifier) (subject : Text) (role : Role) : Prop :=
  ∃ later event earlier invitation, history = later ++ event :: earlier ∧
    Admits earlier event subject organizationId invitation ∧
    role = (lastUpdate organizationId (userKey subject.1) (event :: earlier) later).getD invitation.role

theorem Granted.cons {history : History} {organizationId : Identifier} {subject : Text} {role : Role}
    (h : Granted history organizationId subject role) (event : Event) :
    Granted (event :: history) organizationId subject
      ((updatedRole organizationId (userKey subject.1) event history).getD role) := by
  obtain ⟨later, creation, earlier, invitation, rfl, hadmits, rfl⟩ := h
  refine ⟨event :: later, creation, earlier, invitation, rfl, hadmits, ?_⟩
  rw [lastUpdate]
  cases updatedRole organizationId (userKey subject.1) event (later ++ creation :: earlier) <;> rfl

theorem updatedRole_eq_some {organizationId : Identifier} {key : String} {event : Event}
    {history : History} {role : Role} (h : updatedRole organizationId key event history = some role) :
    ∃ identity request, event.call = .updateMembership identity organizationId.1 key request ∧
      Succeeds event history ∧ request.role = role := by
  unfold updatedRole at h
  split at h
  · next identity id identifier request hcall =>
    split_ifs at h with hcond
    obtain ⟨rfl, rfl, hsucceeds⟩ := hcond
    exact ⟨identity, request, hcall, hsucceeds, Option.some.inj h⟩
  · cases h

theorem updatedRole_of_update {organizationId : Identifier} {key : String} {event : Event}
    {history : History} {identity : Identity} {request : MembershipUpdate}
    (hcall : event.call = .updateMembership identity organizationId.1 key request)
    (h : Succeeds event history) :
    updatedRole organizationId key event history = some request.role := by
  unfold updatedRole
  rw [hcall]
  exact if_pos ⟨rfl, rfl, h⟩

theorem Effect.of_updateMembership {a : Ambient} {R R' : Registry} {identity : Identity}
    {organizationId : Identifier} {key : String} {request : MembershipUpdate}
    (h : Effect a R (.updateMembership identity organizationId.1 key request) R') :
    ∃ member, R.member organizationId key = some member ∧ member.subject ≠ identity.subject ∧
      R'.member organizationId key = some (member.update request) := by
  generalize hcall : Call.updateMembership identity organizationId.1 key request = call at h
  cases h with
  | @updateMembership identity' organizationId' key' request' admin user member organization
      hadmin hmember horganization hself =>
    rw [Call.updateMembership.injEq] at hcall
    obtain ⟨rfl, hid, rfl, rfl⟩ := hcall
    obtain rfl := Subtype.ext hid
    refine ⟨member, hmember, hself, ?_⟩
    rw [Registry.putMember_apply, if_pos ⟨rfl, rfl⟩]
  | bootstrapOwner | createOrganization | invite | redeem | setOrganization | setMember | setUser
  | revokeInvitation | setAdministrator | recordRejection => cases hcall

/-- **Roles are granted.** Every membership has a role that its history gives it. -/
theorem granted_after (history : History) {organizationId : Identifier} {key : String}
    {member : Membership} (hmember : (registry (after history)).member organizationId key = some member) :
    Granted history organizationId member.subject member.role := by
  induction history generalizing member with
  | nil => cases hmember
  | cons event history ih =>
    have hkey := ((placed_after (event :: history)).member hmember).2
    subst hkey
    cases hrole : updatedRole organizationId (userKey member.subject.1) event history with
    | some role =>
      obtain ⟨identity, request, hcall, hsucceeds, rfl⟩ := updatedRole_eq_some hrole
      obtain ⟨R', heffect, -, audit, -, heq⟩ := hsucceeds.effect
      rw [hcall] at heffect
      obtain ⟨before, hbefore, -, hwritten⟩ := heffect.of_updateMembership
      rw [heq, Registry.putAudit_member, hwritten, Option.some.injEq] at hmember
      subst hmember
      have hgranted := (ih hbefore).cons event
      change Granted (event :: history) organizationId before.subject request.role
      rw [show (before.update request).subject = before.subject from rfl] at hrole
      rwa [hrole] at hgranted
    | none =>
      have hkeep : ∀ {before : Membership},
          (registry (after history)).member organizationId (userKey member.subject.1) = some before →
          before.subject = member.subject → before.role = member.role →
          Granted (event :: history) organizationId member.subject member.role := by
        intro before hbefore hsubject hsame
        have hgranted := (ih hbefore).cons event
        rwa [hsubject, hsame, hrole] at hgranted
      rcases after_cons event history with ⟨hsame, -⟩ | ⟨R', heffect, ⟨-, audit, -, heq⟩, hreturns⟩
      · rw [hsame] at hmember
        exact hkeep hmember rfl rfl
      · rw [heq, Registry.putAudit_member] at hmember
        rcases heffect.member_cases organizationId (userKey member.subject.1) with hsame |
          ⟨identity, token, invitation, hcall, hinvitation, hredeemable, hid, hsubject, hnone, hwritten⟩ |
          ⟨identity, request, admin, before, -, -, hbefore, -, hwritten⟩ |
          ⟨identity, request, admin, before, hcall, -, -, -, -, -⟩
        · rw [hsame] at hmember
          exact hkeep hmember rfl rfl
        · have hcreated : ((registry (after (event :: history))).member organizationId
              (userKey member.subject.1)).isSome = true := by
            rw [heq, Registry.putAudit_member, hmember]
            rfl
          rw [hwritten, Option.some.injEq] at hmember
          subst hmember
          exact ⟨[], event, history, invitation, rfl,
            ⟨⟨identity, token, hcall, rfl, hinvitation, hredeemable.email⟩, hid.symm,
              hredeemable.unexpired, hredeemable.unrevoked, hredeemable.inviter, hnone, hcreated⟩, rfl⟩
        · rw [hwritten, Option.some.injEq] at hmember
          subst hmember
          exact hkeep hbefore rfl rfl
        · -- an update that has its effect also returns
          have hreturn : Succeeds event history := hreturns fun _ _ h => by
            rw [hcall] at h
            cases h
          rw [updatedRole_of_update hcall hreturn] at hrole
          cases hrole

/-! ## The workspace of a caller -/

omit [Casing] in
theorem workspace_eq {store : MemoryStore} (hs : Shaped store) (identity : Identity)
    (organizationId : String) :
    workspace (fun _ => none) identity organizationId store =
      (((registry store).workspaces identity.subject).find? fun w =>
        w.organization.organizationId.1 == organizationId).elim (.error denied) .ok := by
  unfold workspace
  rw [access_eq hs, Transaction.firstFault_none]
  dsimp only [Option.elim, Except.ok_bind, accessView]
  cases ((registry store).workspaces identity.subject).find? fun w =>
    w.organization.organizationId.1 == organizationId <;> rfl

omit [Casing] in
theorem Registry.mem_workspaces {R : Registry} {subject : Text} {w : Workspace} :
    w ∈ R.workspaces subject ↔ ∃ user, R.user (userKey subject.1) = some user ∧
      user.active = true ∧ ∃ organizationId ∈ user.organizationIds,
        R.workspaceOf subject organizationId = some w := by
  unfold workspaces
  cases R.user (userKey subject.1) with
  | none => simp
  | some user =>
    by_cases hactive : user.active = true
    · simp [hactive]
    · simp [hactive]

/-- What a workspace that is returned comes from. -/
theorem workspace_ok {history : History} {identity : Identity} {organizationId : String}
    {w : Workspace}
    (h : workspace (fun _ => none) identity organizationId (after history) = .ok w) :
    ∃ id : Identifier, id.1 = organizationId ∧
      (∃ user, (registry (after history)).user (userKey identity.subject.1) = some user ∧
        user.active = true) ∧
      (registry (after history)).organization id = some w.organization ∧
      (registry (after history)).member id (userKey identity.subject.1) = some w.membership ∧
      w.organization.active = true ∧ w.membership.active = true := by
  rw [workspace_eq (shaped_after history)] at h
  cases hfind : ((registry (after history)).workspaces identity.subject).find? fun w =>
      w.organization.organizationId.1 == organizationId with
  | none =>
    rw [hfind] at h
    cases h
  | some found =>
    rw [hfind] at h
    cases h
    have hid := List.find?_some hfind
    obtain ⟨user, huser, hactive, id, -, hworkspace⟩ :=
      Registry.mem_workspaces.mp (List.mem_of_find?_eq_some hfind)
    obtain ⟨horganization, hmember, hboth⟩ := Registry.workspaceOf_eq_some.mp hworkspace
    rw [beq_iff_eq, (placed_after history).organization horganization] at hid
    exact ⟨id, hid, ⟨user, huser, hactive⟩, horganization, hmember, hboth⟩

/-- **Access.** A workspace is returned exactly when the user and the organization are active and
there is an active membership that the subject's redemption of an invitation created; its role is
that of the membership's last update, or that of the invitation. -/
theorem workspace_iff_admitted (hinjective : Function.Injective userKey) (history : History)
    (identity : Identity) (organizationId : String) :
    ((∃ w, workspace (fun _ => none) identity organizationId (after history) = .ok w) ↔
      ∃ id : Identifier, id.1 = organizationId ∧
        (∃ user, (registry (after history)).user (userKey identity.subject.1) = some user ∧
          user.active = true) ∧
        (∃ organization, (registry (after history)).organization id = some organization ∧
          organization.active = true) ∧
        ∃ member, (registry (after history)).member id (userKey identity.subject.1) = some member ∧
          member.active = true ∧ ∃ event earlier invitation,
            (∃ later, history = later ++ event :: earlier) ∧
            Admits earlier event identity.subject id invitation) ∧
    ∀ {w}, workspace (fun _ => none) identity organizationId (after history) = .ok w →
      ∃ id : Identifier, id.1 = organizationId ∧
        Granted history id identity.subject w.membership.role := by
  have hgranted : ∀ {id member},
      (registry (after history)).member id (userKey identity.subject.1) = some member →
      Granted history id identity.subject member.role := by
    intro id member hmember
    have hsubject : member.subject = identity.subject :=
      Subtype.ext (hinjective ((placed_after history).member hmember).2)
    have hrole := granted_after history hmember
    rwa [hsubject] at hrole
  refine ⟨⟨?_, ?_⟩, ?_⟩
  · rintro ⟨w, h⟩
    obtain ⟨id, hid, huser, horganization, hmember, hactive, hactive'⟩ := workspace_ok h
    obtain ⟨later, event, earlier, invitation, heq, hadmits, -⟩ := hgranted hmember
    exact ⟨id, hid, huser, ⟨_, horganization, hactive⟩,
      ⟨_, hmember, hactive', event, earlier, invitation, ⟨later, heq⟩, hadmits⟩⟩
  · rintro ⟨id, rfl, ⟨user, huser, hactive⟩, ⟨organization, horganization, horgActive⟩,
      ⟨member, hmember, hmemberActive, -⟩⟩
    have hjoined : id ∈ user.organizationIds := by
      rw [← Registry.joined_of_some huser, (enrolled_after history).member_iff, hmember]
      rfl
    have hmem : (⟨organization, member⟩ : Workspace) ∈
        (registry (after history)).workspaces identity.subject :=
      Registry.mem_workspaces.mpr ⟨user, huser, hactive, id, hjoined,
        Registry.workspaceOf_eq_some.mpr ⟨horganization, hmember, horgActive, hmemberActive⟩⟩
    rw [workspace_eq (shaped_after history)]
    cases hfind : ((registry (after history)).workspaces identity.subject).find? fun w =>
        w.organization.organizationId.1 == id.1 with
    | none =>
      have hnot := List.find?_eq_none.mp hfind _ hmem
      rw [beq_iff_eq, (placed_after history).organization horganization] at hnot
      exact absurd rfl hnot
    | some w => exact ⟨w, rfl⟩
  · intro w h
    obtain ⟨id, hid, -, -, hmember, -⟩ := workspace_ok h
    exact ⟨id, hid, hgranted hmember⟩

end Workspaces

open scoped Admission.Demo

/-- The role of the example is granted by the invitation. -/
theorem alice_granted :
    ∃ w, workspace (fun _ => none) Demo.alice Demo.organizationId.1 (after Demo.history) = .ok w ∧
      ∃ id : Identifier, id.1 = Demo.organizationId.1 ∧
        Granted Demo.history id Demo.alice.subject w.membership.role := by
  have hok : (workspace (fun _ => none) Demo.alice Demo.organizationId.1
      (after Demo.history)).toOption.isSome = true := by decide +kernel
  cases hworkspace : workspace (fun _ => none) Demo.alice Demo.organizationId.1
      (after Demo.history) with
  | error e =>
    rw [hworkspace] at hok
    cases hok
  | ok w =>
    exact ⟨w, rfl, (workspace_iff_admitted Demo.userKey_injective Demo.history Demo.alice
      Demo.organizationId.1).2 hworkspace⟩

end ChangeOps.Admission
