import ChangeOps.Admission.Records

/-!
# ChangeOps.Admission — what a call can do

`Effect` lists what the calls of the service do to the registry, each with the guards under which
it does it. The transaction of a call on a shaped store raises and changes nothing, or has its
effect and adds one audit event (`Runs`). Every later fact about the service is a case analysis
over `Effect`.
-/

namespace ChangeOps.Admission

open Transaction (get put raise ofExcept Does)

section Effects

variable [Sha256]

/-- The caller is an active platform administrator with a second factor. -/
def Registry.Admin (R : Registry) (identity : Identity) (user : User) : Prop :=
  R.user (userKey identity.subject.1) = some user ∧ user.active = true ∧
    user.platformAdmin = true ∧ identity.mfa = true

/-- The record of a subject, or a new one. -/
def Registry.userOf (R : Registry) (subject : Text) : User :=
  (R.user (userKey subject.1)).getD (User.new subject)

theorem Registry.userOf_of_some {R : Registry} {subject : Text} {user : User}
    (h : R.user (userKey subject.1) = some user) : R.userOf subject = user := by
  rw [userOf, h]
  rfl

theorem Registry.userOf_of_none {R : Registry} {subject : Text}
    (h : R.user (userKey subject.1) = none) : R.userOf subject = User.new subject := by
  rw [userOf, h]
  rfl

variable [Casing]

/-- What `redeem` checks. -/
structure Redeemable (R : Registry) (a : Ambient) (identity : Identity) (invitation : Invitation) :
    Prop where
  email : invitation.email.1 = Casing.lower identity.email.1
  unexpired : a.now < invitation.expiresAt
  unredeemed : invitation.redeemedBy = none
  unrevoked : invitation.revoked = false
  inviter : ∃ inviter, R.user (userKey invitation.invitedBy.1) = some inviter ∧
    inviter.active = true ∧ inviter.platformAdmin = true
  organization : ∃ organization, R.organization invitation.organizationId = some organization ∧
    organization.active = true
  user : (R.userOf identity.subject).active = true
  absent : R.member invitation.organizationId (userKey identity.subject.1) = none
  room : (R.userOf identity.subject).organizationIds.length < 50

/-- What `redeem` checks before it constructs the new record of the caller: all of that, but for the
room. -/
structure Checked (R : Registry) (a : Ambient) (identity : Identity) (invitation : Invitation) :
    Prop where
  email : invitation.email.1 = Casing.lower identity.email.1
  unexpired : a.now < invitation.expiresAt
  unredeemed : invitation.redeemedBy = none
  unrevoked : invitation.revoked = false
  inviter : ∃ inviter, R.user (userKey invitation.invitedBy.1) = some inviter ∧
    inviter.active = true ∧ inviter.platformAdmin = true
  organization : ∃ organization, R.organization invitation.organizationId = some organization ∧
    organization.active = true
  user : (R.userOf identity.subject).active = true
  absent : R.member invitation.organizationId (userKey identity.subject.1) = none

theorem Redeemable.checked {R : Registry} {a : Ambient} {identity : Identity}
    {invitation : Invitation} (h : Redeemable R a identity invitation) :
    Checked R a identity invitation :=
  ⟨h.email, h.unexpired, h.unredeemed, h.unrevoked, h.inviter, h.organization, h.user, h.absent⟩

theorem Checked.redeemable {R : Registry} {a : Ambient} {identity : Identity}
    {invitation : Invitation} (h : Checked R a identity invitation)
    (hroom : (R.userOf identity.subject).organizationIds.length < 50) :
    Redeemable R a identity invitation :=
  ⟨h.email, h.unexpired, h.unredeemed, h.unrevoked, h.inviter, h.organization, h.user, h.absent, hroom⟩

/-- What a call does to the registry, apart from its audit event. -/
inductive Effect (a : Ambient) (R : Registry) : Call → Registry → Prop
  | bootstrapOwner {subject : String} (hbootstrap : R.bootstrap = none)
      (hnone : R.user (userKey subject) = none) :
      Effect a R (.bootstrapOwner subject)
        ((R.putUser (userKey subject) (User.first subject)).putBootstrap (bootstrapDocument subject))
  | createOrganization {identity : Identity} {name : String} {admin : User}
      {organization : Organization} (hadmin : R.Admin identity admin)
      (hid : organization.organizationId = a.resourceHex.organizationId)
      (hactive : organization.active = true) (hversion : organization.version = 1) :
      Effect a R (.createOrganization identity name) (R.putOrganization organization)
  | invite {identity : Identity} {request : InvitationCreate} {admin : User} {email : Email}
      {organization : Organization} (hadmin : R.Admin identity admin)
      (hemail : Email.validate (Casing.lower request.email.1) = .ok email)
      (horganization : R.organization request.organizationId = some organization)
      (hactive : organization.active = true) :
      Effect a R (.invite identity request)
        (R.putInvitation (Sha256.hexdigest a.token) (.issue a identity request email))
  | redeem {identity : Identity} {token : String} {invitation : Invitation}
      (hinvitation : R.invitation (Sha256.hexdigest token) = some invitation)
      (hredeemable : Redeemable R a identity invitation) :
      Effect a R (.redeem identity token)
        (((R.putUser (userKey identity.subject.1)
          ((R.userOf identity.subject).join invitation.organizationId hredeemable.room)).putMember
            invitation.organizationId (userKey identity.subject.1)
            (invitation.member identity.subject)).putInvitation
              (Sha256.hexdigest token) (invitation.redeem identity.subject))
  | setOrganization {identity : Identity} {request : StatusUpdate} {admin : User}
      {organization : Organization} (hadmin : R.Admin identity admin)
      (horganization : R.organization organization.organizationId = some organization)
      (hversion : organization.version = request.expectedVersion) :
      Effect a R (.setStatus identity "organizations" organization.organizationId.1 request)
        (R.putOrganization (organization.withStatus request))
  | setMember {identity : Identity} {organizationId : Identifier} {key : String}
      {request : StatusUpdate} {admin : User} {member : Membership} (hadmin : R.Admin identity admin)
      (hmember : R.member organizationId key = some member)
      (hversion : member.version = request.expectedVersion) :
      Effect a R
        (.setStatus identity "organizations" (organizationId.1 ++ "/members/" ++ key) request)
        (R.putMember organizationId key (member.withStatus request))
  | setUser {identity : Identity} {key : String} {request : StatusUpdate} {admin user : User}
      (hadmin : R.Admin identity admin) (huser : R.user key = some user)
      (howner : user.owner = false) (hself : user.subject ≠ identity.subject)
      (hversion : user.version = request.expectedVersion) :
      Effect a R (.setStatus identity "users" key request) (R.putUser key (user.withStatus request))
  | revokeInvitation {identity : Identity} {hash : String} {request : InvitationRevoke}
      {admin : User} {invitation : Invitation} (hadmin : R.Admin identity admin)
      (hinvitation : R.invitation hash = some invitation)
      (hversion : invitation.version = request.expectedVersion)
      (hrevoked : invitation.revoked = false) (hredeemed : invitation.redeemedBy = none)
      (hunexpired : a.now < invitation.expiresAt) :
      Effect a R (.revokeInvitation identity hash request)
        (R.putInvitation hash invitation.revoke)
  | updateMembership {identity : Identity} {organizationId : Identifier} {key : String}
      {request : MembershipUpdate} {admin user : User} {member : Membership}
      {organization : Organization} (hadmin : R.Admin identity admin)
      (hmember : R.member organizationId key = some member)
      (horganization : R.organization organizationId = some organization)
      (hself : member.subject ≠ identity.subject)
      (huser : R.user (userKey member.subject.1) = some user)
      (hjoined : organizationId ∈ user.organizationIds)
      (hversion : member.version = request.expectedVersion)
      (hactive : request.active = true → user.active = true ∧ organization.active = true) :
      Effect a R (.updateMembership identity organizationId.1 key request)
        (R.putMember organizationId key (member.update request))
  | setAdministrator {identity : Identity} {key : String} {request : StatusUpdate}
      {admin target : User} (hadmin : R.Admin identity admin) (howner : admin.owner = true)
      (htarget : R.user key = some target) (hnotOwner : target.owner = false)
      (hactive : target.active = true) (hversion : target.version = request.expectedVersion) :
      Effect a R (.setAdministrator identity key request)
        (R.putUser key (target.appoint request.active))
  | recordRejection {actor reason : String} : Effect a R (.recordRejection actor reason) R

/-! ## Which calls write a record -/

namespace Effect

variable {a : Ambient} {R R' : Registry} {call : Call} (h : Effect a R call R')
include h

theorem bootstrap_cases :
    R'.bootstrap = R.bootstrap ∨ ∃ subject, call = .bootstrapOwner subject ∧ R.bootstrap = none ∧
      R'.bootstrap = some (bootstrapDocument subject) := by
  cases h with
  | @bootstrapOwner subject hbootstrap => exact Or.inr ⟨subject, rfl, hbootstrap, rfl⟩
  | createOrganization | invite | redeem | setOrganization | setMember | setUser | revokeInvitation
  | updateMembership | setAdministrator | recordRejection => exact Or.inl rfl

theorem user_cases (key : String) :
    R'.user key = R.user key ∨
    (∃ subject, call = .bootstrapOwner subject ∧ key = userKey subject ∧ R.bootstrap = none ∧
      R.user key = none ∧ R'.user key = some (User.first subject)) ∨
    (∃ identity token invitation, ∃ hredeemable : Redeemable R a identity invitation,
      call = .redeem identity token ∧ key = userKey identity.subject.1 ∧
      R'.user key =
        some ((R.userOf identity.subject).join invitation.organizationId hredeemable.room)) ∨
    (∃ identity request admin user, call = .setStatus identity "users" key request ∧
      R.Admin identity admin ∧ R.user key = some user ∧ user.owner = false ∧
      user.version = request.expectedVersion ∧ R'.user key = some (user.withStatus request)) ∨
    (∃ identity request admin target, call = .setAdministrator identity key request ∧
      R.Admin identity admin ∧ admin.owner = true ∧ R.user key = some target ∧
      target.owner = false ∧ target.version = request.expectedVersion ∧
      R'.user key = some (target.appoint request.active)) := by
  cases h with
  | @bootstrapOwner subject hbootstrap hnone =>
    by_cases hkey : key = userKey subject
    · subst hkey
      exact Or.inr (Or.inl ⟨subject, rfl, rfl, hbootstrap, hnone, Function.update_self _ _ _⟩)
    · exact Or.inl (Function.update_of_ne hkey _ _)
  | @redeem identity token invitation hinvitation hredeemable =>
    by_cases hkey : key = userKey identity.subject.1
    · subst hkey
      exact Or.inr (Or.inr (Or.inl ⟨identity, token, invitation, hredeemable, rfl, rfl,
        Function.update_self _ _ _⟩))
    · exact Or.inl (Function.update_of_ne hkey _ _)
  | @setUser identity key' request admin user hadmin huser howner hself hversion =>
    by_cases hkey : key = key'
    · subst hkey
      exact Or.inr (Or.inr (Or.inr (Or.inl ⟨identity, request, admin, user, rfl, hadmin, huser,
        howner, hversion, Function.update_self _ _ _⟩)))
    · exact Or.inl (Function.update_of_ne hkey _ _)
  | @setAdministrator identity key' request admin target hadmin howner htarget hnotOwner hactive
      hversion =>
    by_cases hkey : key = key'
    · subst hkey
      exact Or.inr (Or.inr (Or.inr (Or.inr ⟨identity, request, admin, target, rfl, hadmin, howner,
        htarget, hnotOwner, hversion, Function.update_self _ _ _⟩)))
    · exact Or.inl (Function.update_of_ne hkey _ _)
  | createOrganization | invite | setOrganization | setMember | revokeInvitation
  | updateMembership | recordRejection => exact Or.inl rfl

theorem organization_cases (organizationId : Identifier) :
    R'.organization organizationId = R.organization organizationId ∨
    (∃ identity name admin organization, call = .createOrganization identity name ∧
      R.Admin identity admin ∧ organizationId = a.resourceHex.organizationId ∧
      R'.organization organizationId = some organization) ∨
    (∃ identity request admin organization,
      call = .setStatus identity "organizations" organizationId.1 request ∧
      R.Admin identity admin ∧ R.organization organizationId = some organization ∧
      organization.version = request.expectedVersion ∧
      R'.organization organizationId = some (organization.withStatus request)) := by
  cases h with
  | @createOrganization identity name admin organization hadmin hid =>
    by_cases hkey : organizationId = organization.organizationId
    · subst hkey
      exact Or.inr (Or.inl ⟨identity, name, admin, organization, rfl, hadmin, hid,
        Function.update_self _ _ _⟩)
    · exact Or.inl (Function.update_of_ne hkey _ _)
  | @setOrganization identity request admin organization hadmin horganization hversion =>
    by_cases hkey : organizationId = organization.organizationId
    · subst hkey
      exact Or.inr (Or.inr ⟨identity, request, admin, organization, rfl, hadmin, horganization,
        hversion, Function.update_self _ _ _⟩)
    · exact Or.inl (Function.update_of_ne hkey _ _)
  | bootstrapOwner | invite | redeem | setMember | setUser | revokeInvitation | updateMembership
  | setAdministrator | recordRejection => exact Or.inl rfl

theorem member_cases (organizationId : Identifier) (key : String) :
    R'.member organizationId key = R.member organizationId key ∨
    (∃ identity token invitation, call = .redeem identity token ∧
      R.invitation (Sha256.hexdigest token) = some invitation ∧
      Redeemable R a identity invitation ∧ organizationId = invitation.organizationId ∧
      key = userKey identity.subject.1 ∧ R.member organizationId key = none ∧
      R'.member organizationId key = some (invitation.member identity.subject)) ∨
    (∃ identity request admin member, call = .setStatus identity "organizations"
        (organizationId.1 ++ "/members/" ++ key) request ∧
      R.Admin identity admin ∧ R.member organizationId key = some member ∧
      member.version = request.expectedVersion ∧
      R'.member organizationId key = some (member.withStatus request)) ∨
    (∃ identity request admin member, call = .updateMembership identity organizationId.1 key request ∧
      R.Admin identity admin ∧ R.member organizationId key = some member ∧
      member.subject ≠ identity.subject ∧ member.version = request.expectedVersion ∧
      R'.member organizationId key = some (member.update request)) := by
  have hwrite : ∀ (organizationId' : Identifier) (key' : String) (member : Membership),
      (organizationId = organizationId' ∧ key = key' ∧
        (R.putMember organizationId' key' member).member organizationId key = some member) ∨
      (R.putMember organizationId' key' member).member organizationId key =
        R.member organizationId key := by
    intro organizationId' key' member
    rw [Registry.putMember_apply]
    split_ifs with h
    · exact Or.inl ⟨h.1, h.2, rfl⟩
    · exact Or.inr rfl
  cases h with
  | @redeem identity token invitation hinvitation hredeemable =>
    rcases hwrite invitation.organizationId (userKey identity.subject.1)
      (invitation.member identity.subject) with ⟨hid, hkey, hwritten⟩ | hsame
    · subst hid hkey
      exact Or.inr (Or.inl ⟨identity, token, invitation, rfl, hinvitation, hredeemable, rfl, rfl,
        hredeemable.absent, hwritten⟩)
    · exact Or.inl hsame
  | @setMember identity organizationId' key' request admin member hadmin hmember hversion =>
    rcases hwrite organizationId' key' (member.withStatus request) with ⟨hid, hkey, hwritten⟩ | hsame
    · subst hid hkey
      exact Or.inr (Or.inr (Or.inl ⟨identity, request, admin, member, rfl, hadmin, hmember,
        hversion, hwritten⟩))
    · exact Or.inl hsame
  | @updateMembership identity organizationId' key' request admin user member organization hadmin
      hmember horganization hself huser hjoined hversion =>
    rcases hwrite organizationId' key' (member.update request) with ⟨hid, hkey, hwritten⟩ | hsame
    · subst hid hkey
      exact Or.inr (Or.inr (Or.inr ⟨identity, request, admin, member, rfl, hadmin, hmember, hself,
        hversion, hwritten⟩))
    · exact Or.inl hsame
  | bootstrapOwner | createOrganization | invite | setOrganization | setUser | revokeInvitation
  | setAdministrator | recordRejection => exact Or.inl rfl

theorem invitation_cases (hash : String) :
    R'.invitation hash = R.invitation hash ∨
    (∃ identity request admin email, call = .invite identity request ∧ R.Admin identity admin ∧
      hash = Sha256.hexdigest a.token ∧
      R'.invitation hash = some (.issue a identity request email)) ∨
    (∃ identity token invitation, call = .redeem identity token ∧ hash = Sha256.hexdigest token ∧
      R.invitation hash = some invitation ∧ Redeemable R a identity invitation ∧
      R'.invitation hash = some (invitation.redeem identity.subject)) ∨
    (∃ identity request admin invitation, call = .revokeInvitation identity hash request ∧
      R.Admin identity admin ∧ R.invitation hash = some invitation ∧
      invitation.version = request.expectedVersion ∧ invitation.revoked = false ∧
      invitation.redeemedBy = none ∧ R'.invitation hash = some invitation.revoke) := by
  cases h with
  | @invite identity request admin email organization hadmin =>
    by_cases hhash : hash = Sha256.hexdigest a.token
    · subst hhash
      exact Or.inr (Or.inl ⟨identity, request, admin, email, rfl, hadmin, rfl,
        Function.update_self _ _ _⟩)
    · exact Or.inl (Function.update_of_ne hhash _ _)
  | @redeem identity token invitation hinvitation hredeemable =>
    by_cases hhash : hash = Sha256.hexdigest token
    · subst hhash
      exact Or.inr (Or.inr (Or.inl ⟨identity, token, invitation, rfl, rfl, hinvitation, hredeemable,
        Function.update_self _ _ _⟩))
    · exact Or.inl (Function.update_of_ne hhash _ _)
  | @revokeInvitation identity hash' request admin invitation hadmin hinvitation hversion hrevoked
      hredeemed =>
    by_cases hhash : hash = hash'
    · subst hhash
      exact Or.inr (Or.inr (Or.inr ⟨identity, request, admin, invitation, rfl, hadmin, hinvitation,
        hversion, hrevoked, hredeemed, Function.update_self _ _ _⟩))
    · exact Or.inl (Function.update_of_ne hhash _ _)
  | bootstrapOwner | createOrganization | setOrganization | setMember | setUser | updateMembership
  | setAdministrator | recordRejection => exact Or.inl rfl

end Effect

end Effects

/-! ## Helpers -/

section Helpers

/-- The path of `set_status`, for each kind. -/
theorem usersPath_eq (identifier : String) :
    "admission_" ++ "users" ++ "/" ++ identifier = usersPath identifier :=
  congrArg (· ++ identifier) (by decide)

theorem organizationPath_eq (identifier : String) :
    "admission_" ++ "organizations" ++ "/" ++ identifier = organizationPath identifier :=
  congrArg (· ++ identifier) (by decide)

variable [Sha256] {α : Type} {x : α}

omit [Sha256] in
theorem raiseIf_bind_inv {refused : Bool} {e : AdmissionError} {f : Unit → Tx α}
    {store store' : MemoryStore} (h : (raiseIf refused e >>= f).Does store x store') :
    refused = false ∧ (f ()).Does store x store' := by
  unfold raiseIf at h
  cases refused with
  | false =>
    obtain ⟨u, middle, hpure, hf⟩ := h.bind_inv
    obtain ⟨rfl, rfl⟩ := hpure.pure_inv
    exact ⟨rfl, hf⟩
  | true =>
    obtain ⟨u, middle, hraise, -⟩ := h.bind_inv
    exact hraise.raise_inv.elim

omit [Sha256] in
/-- The end of `set_status`, on a document with a version. -/
theorem setStatus_inv {a : Ambient} {document : Document} {version : Nat} {path actor action : String}
    {request : StatusUpdate} {store store' : MemoryStore} {u : Unit}
    (hversion : document.get? "version" = some (.int version))
    (h : Does (do
      raiseIf (decide ((← ofExcept (item document "version")) ≠ .int request.expectedVersion))
        versionConflict
      put path (setStatusOf document request)
      audit a actor action path : Tx Unit) store u store') :
    version = request.expectedVersion ∧
      Does (do
        put path (setStatusOf document request)
        audit a actor action path : Tx Unit) store u store' := by
  obtain ⟨value, hitem, hcompare⟩ := h.ofExcept_bind_inv
  obtain ⟨hconflict, hput⟩ := raiseIf_bind_inv hcompare
  rw [item, hversion, Except.ok.injEq] at hitem
  rw [← hitem, decide_eq_false_iff_not, ne_eq, not_not, Value.int.injEq] at hconflict
  exact ⟨hconflict, hput⟩

section Inv

variable {store store' : MemoryStore} (hs : Shaped store)
include hs

theorem readUser_inv {subject : String} {found : Option User}
    (h : (readUser subject).Does store found store') :
    found = (registry store).user (userKey subject) ∧ store' = store := by
  have hfound := h.get_bind_inv
  rw [userPath, hs.get?_user] at hfound
  cases huser : (registry store).user (userKey subject) with
  | none =>
    rw [huser] at hfound
    exact hfound.pure_inv
  | some user =>
    rw [huser] at hfound
    obtain ⟨user', hvalid, hpure⟩ := hfound.ofExcept_bind_inv
    rw [User.modelValidate_modelDump, Except.ok.injEq] at hvalid
    subst hvalid
    exact hpure.pure_inv

theorem readUser_bind_inv {subject : String} {f : Option User → Tx α}
    (h : (readUser subject >>= f).Does store x store') :
    (f ((registry store).user (userKey subject))).Does store x store' := by
  obtain ⟨found, middle, hread, hf⟩ := h.bind_inv
  obtain ⟨rfl, rfl⟩ := readUser_inv hs hread
  exact hf

theorem requireAdmin_bind_inv {identity : Identity} {f : User → Tx α}
    (h : (requireAdmin identity >>= f).Does store x store') :
    ∃ admin, (registry store).Admin identity admin ∧ (f admin).Does store x store' := by
  obtain ⟨admin, middle, hadmin, hf⟩ := h.bind_inv
  have hfound := readUser_bind_inv hs hadmin
  cases huser : (registry store).user (userKey identity.subject.1) with
  | none =>
    rw [huser] at hfound
    exact hfound.raise_inv.elim
  | some user =>
    rw [huser] at hfound
    obtain ⟨hrefused, hpure⟩ := raiseIf_bind_inv hfound
    obtain ⟨rfl, rfl⟩ := hpure.pure_inv
    simp only [Bool.or_eq_false_iff, Bool.not_eq_false'] at hrefused
    exact ⟨_, ⟨huser, hrefused.1.1, hrefused.1.2, hrefused.2⟩, hf⟩

/-! ### Writing a record -/

theorem putUser_bind_inv {key : String} {user : User} {f : Unit → Tx α}
    (h : (put (usersPath key) user.modelDump >>= f).Does store x store')
    (hsubject : ∃ subject, key = userKey subject ∧ user.subject = Text.strip subject) :
    ∃ middle, Shaped middle ∧ registry middle = (registry store).putUser key user ∧
      (f ()).Does middle x store' :=
  ⟨_, hs.set (.user key) ⟨user, rfl, hsubject⟩, registry_set_user store key user,
    h.put_bind_inv⟩

theorem putOrganization_bind_inv (organization : Organization) {f : Unit → Tx α}
    (h : (put (organizationPath organization.organizationId.1) organization.modelDump >>= f).Does
      store x store') :
    ∃ middle, Shaped middle ∧ registry middle = (registry store).putOrganization organization ∧
      (f ()).Does middle x store' :=
  ⟨_, hs.set (.organization organization.organizationId) ⟨organization, rfl, rfl⟩,
    registry_set_organization store organization, h.put_bind_inv⟩

theorem putMember_bind_inv {organizationId : Identifier} {key : String} (member : Membership)
    {f : Unit → Tx α}
    (h : (put (membersPath organizationId.1 key) member.modelDump >>= f).Does store x store')
    (hids : member.organizationId = organizationId ∧ userKey member.subject.1 = key) :
    ∃ middle, Shaped middle ∧
      registry middle = (registry store).putMember organizationId key member ∧
      (f ()).Does middle x store' :=
  ⟨_, hs.set (.member organizationId key) ⟨member, rfl, hids⟩,
    registry_set_member store organizationId key member, h.put_bind_inv⟩

theorem putInvitation_bind_inv {hash : String} {invitation : Invitation} {f : Unit → Tx α}
    (h : (put (invitationPath hash) invitation.modelDump >>= f).Does store x store') :
    ∃ middle, Shaped middle ∧ registry middle = (registry store).putInvitation hash invitation ∧
      (f ()).Does middle x store' :=
  ⟨_, hs.set (.invitation hash) ⟨invitation, rfl⟩,
    registry_set_invitation store hash invitation, h.put_bind_inv⟩

theorem putBootstrap_bind_inv {subject : String} {f : Unit → Tx α}
    (h : (put bootstrapPath (bootstrapDocument subject) >>= f).Does store x store') :
    ∃ middle, Shaped middle ∧
      registry middle = (registry store).putBootstrap (bootstrapDocument subject) ∧
      (f ()).Does middle x store' :=
  ⟨_, hs.set (.bootstrap) ⟨subject, rfl⟩, registry_set_bootstrap store _, h.put_bind_inv⟩

end Inv

/-- What a transaction leaves that has had its effect and ends with its audit event. -/
def Committed (a : Ambient) (R' : Registry) (store' : MemoryStore) : Prop :=
  Shaped store' ∧ ∃ event : AdmissionAudit, event.eventId = a.auditHex.eventId ∧
    registry store' = R'.putAudit a.auditHex.eventId event.modelDump

theorem audit_inv {a : Ambient} {actor action resourceId : String} {store store' : MemoryStore}
    (hs : Shaped store) {u : Unit} (h : (audit a actor action resourceId).Does store u store') :
    Committed a (registry store) store' := by
  rw [h.put_inv]
  exact ⟨hs.set (.audit _) ⟨_, rfl, rfl⟩, _, rfl, registry_set_audit store _ _⟩

end Helpers

/-! ## The operations -/

section Operations

variable [Sha256] [Casing] {α : Type}

/-- A call raises and changes nothing, or returns and has had its effect. -/
def Runs (a : Ambient) (store : MemoryStore) (call : Call)
    (r : Except AdmissionError α × MemoryStore) : Prop :=
  (∃ e, r = (.error e, store)) ∨ ∃ x store' R', r = (.ok x, store') ∧
    Effect a (registry store) call R' ∧ Committed a R' store'

theorem runs_transact {a : Ambient} {store : MemoryStore} {call : Call} {p : Tx α}
    {faults : Faults AdmissionError}
    (h : ∀ x store', p.Does store x store' →
      ∃ R', Effect a (registry store) call R' ∧ Committed a R' store') :
    Runs a store call (p.transact faults store) := by
  rcases p.transact_cases faults store with herror | ⟨x, store', hrun, hdoes⟩
  · exact Or.inl herror
  · obtain ⟨R', heffect, hcommitted⟩ := h x store' hdoes
    exact Or.inr ⟨x, store', R', hrun, heffect, hcommitted⟩

section Runs

variable {store : MemoryStore} (hs : Shaped store) (a : Ambient)
include hs

omit [Casing] in
theorem Shaped.userOf_subject (subject : Text) :
    ∃ text, userKey subject.1 = userKey text ∧
      ((registry store).userOf subject).subject = Text.strip text := by
  unfold Registry.userOf
  cases huser : (registry store).user (userKey subject.1) with
  | none => exact ⟨subject.1, rfl, subject.strip_self.symm⟩
  | some user => exact hs.user_subject huser

theorem bootstrapOwner_runs (subject : String) :
    Runs a store (.bootstrapOwner subject) (bootstrapOwner a subject store) := by
  refine runs_transact fun x store' h => ?_
  have hget := h.get_bind_inv
  cases hbootstrap : (registry store).bootstrap with
  | some document =>
    rw [show store.get? bootstrapPath = some document from hbootstrap] at hget
    exact hget.raise_inv.elim
  | none =>
    rw [show store.get? bootstrapPath = none from hbootstrap] at hget
    have hread := readUser_bind_inv hs hget
    cases huser : (registry store).user (userKey subject) with
    | some user =>
      rw [huser] at hread
      exact hread.raise_inv.elim
    | none =>
      rw [huser] at hread
      obtain ⟨store₁, hs₁, heq₁, h₁⟩ := putUser_bind_inv hs hread ⟨subject, rfl, rfl⟩
      obtain ⟨store₂, hs₂, heq₂, h₂⟩ := putBootstrap_bind_inv hs₁ h₁
      have hcommitted := audit_inv hs₂ h₂
      rw [heq₂, heq₁] at hcommitted
      exact ⟨_, .bootstrapOwner hbootstrap huser, hcommitted⟩

theorem createOrganization_runs (identity : Identity) (name : String) :
    Runs a store (.createOrganization identity name) (createOrganization a identity name store) := by
  unfold createOrganization
  split
  · exact Or.inl ⟨_, rfl⟩
  · next organization hvalid =>
    refine runs_transact fun x store' h => ?_
    obtain ⟨hid, hactive, hversion⟩ := Organization.id_of_modelValidate hvalid
    have hid' : organization.organizationId = a.resourceHex.organizationId := by
      simpa [identifier, text, ofFields, Dict.get?_set, Text.strip, stripWhitespace_identifier,
        Identifier.validate_self] using hid.symm
    have hactive' : organization.active = true := by
      simpa [flag, ofFields, Dict.get?_set] using hactive.symm
    have hversion' : organization.version = 1 := by
      simpa [versionOf, ofFields, Dict.get?_set] using hversion.symm
    obtain ⟨admin, hadmin, h⟩ := requireAdmin_bind_inv hs h
    obtain ⟨store₁, hs₁, heq₁, h₁⟩ := putOrganization_bind_inv hs _ h
    obtain ⟨u, store₂, haudit, hpure⟩ := h₁.bind_inv
    obtain ⟨-, rfl⟩ := hpure.pure_inv
    have hcommitted := audit_inv hs₁ haudit
    rw [heq₁] at hcommitted
    exact ⟨_, .createOrganization hadmin hid' hactive' hversion', hcommitted⟩

theorem invite_runs (identity : Identity) (request : InvitationCreate) :
    Runs a store (.invite identity request) (invite a identity request store) := by
  unfold invite
  split
  · exact Or.inl ⟨_, rfl⟩
  split
  · exact Or.inl ⟨_, rfl⟩
  · next email hemail =>
    refine runs_transact fun x store' h => ?_
    obtain ⟨admin, hadmin, h⟩ := requireAdmin_bind_inv hs h
    have hget := h.get_bind_inv
    rw [hs.get?_organization] at hget
    cases horganization : (registry store).organization request.organizationId with
    | none =>
      rw [horganization] at hget
      exact hget.raise_inv.elim
    | some organization =>
      rw [horganization] at hget
      obtain ⟨organization', hvalid, h⟩ := hget.ofExcept_bind_inv
      rw [Organization.modelValidate_modelDump, Except.ok.injEq] at hvalid
      subst hvalid
      obtain ⟨hactive, h⟩ := raiseIf_bind_inv h
      obtain ⟨store₁, hs₁, heq₁, h₁⟩ := putInvitation_bind_inv hs h
      obtain ⟨u, store₂, haudit, hpure⟩ := h₁.bind_inv
      obtain ⟨-, rfl⟩ := hpure.pure_inv
      have hcommitted := audit_inv hs₁ haudit
      rw [heq₁] at hcommitted
      rw [Bool.not_eq_false'] at hactive
      exact ⟨_, .invite hadmin hemail horganization hactive, hcommitted⟩

theorem setStatus_users_runs (identity : Identity) (identifier : String) (request : StatusUpdate) :
    Runs a store (.setStatus identity "users" identifier request)
      (setStatus a identity "users" identifier request store) := by
  refine runs_transact fun x store' h => ?_
  rw [usersPath_eq] at h
  obtain ⟨admin, hadmin, h⟩ := requireAdmin_bind_inv hs h
  have hget := h.get_bind_inv
  rw [hs.get?_user] at hget
  cases huser : (registry store).user identifier with
  | none =>
    rw [huser] at hget
    exact hget.raise_inv.elim
  | some target =>
    rw [huser] at hget
    obtain ⟨target', hvalid, h⟩ := hget.ofExcept_bind_inv
    rw [User.modelValidate_modelDump, Except.ok.injEq] at hvalid
    subst hvalid
    obtain ⟨hrefused, h⟩ := raiseIf_bind_inv h
    obtain ⟨hversion, h⟩ := setStatus_inv target.version_modelDump h
    rw [target.setStatusOf_modelDump] at h
    have hsubject := hs.user_subject huser
    obtain ⟨store₁, hs₁, heq₁, h₁⟩ := putUser_bind_inv hs h hsubject
    have hcommitted := audit_inv hs₁ h₁
    rw [heq₁] at hcommitted
    rw [Bool.or_eq_false_iff, decide_eq_false_iff_not] at hrefused
    exact ⟨_, .setUser hadmin huser hrefused.1 hrefused.2 hversion, hcommitted⟩

theorem setStatus_organizations_runs (identity : Identity) (identifier : String)
    (request : StatusUpdate) :
    Runs a store (.setStatus identity "organizations" identifier request)
      (setStatus a identity "organizations" identifier request store) := by
  refine runs_transact fun x store' h => ?_
  rw [organizationPath_eq] at h
  obtain ⟨admin, hadmin, h⟩ := requireAdmin_bind_inv hs h
  have hget := h.get_bind_inv
  cases hdocument : store.get? (organizationPath identifier) with
  | none =>
    rw [hdocument] at hget
    exact hget.raise_inv.elim
  | some document =>
    rw [hdocument] at hget
    -- the document is that of an organization, or that of a member below one
    rcases hs.under_organizations hdocument with
      ⟨organization, rfl, rfl, horganization⟩ | ⟨id, key, member, rfl, rfl, hmember⟩
    · obtain ⟨hversion, h⟩ := setStatus_inv organization.version_modelDump hget
      rw [organization.setStatusOf_modelDump] at h
      obtain ⟨store₁, hs₁, heq₁, h₁⟩ :=
        putOrganization_bind_inv hs (organization.withStatus request) h
      have hcommitted := audit_inv hs₁ h₁
      rw [heq₁] at hcommitted
      exact ⟨_, .setOrganization hadmin horganization hversion, hcommitted⟩
    · obtain ⟨hversion, h⟩ := setStatus_inv member.version_modelDump hget
      rw [member.setStatusOf_modelDump] at h
      have hids := hs.member_ids hmember
      obtain ⟨store₁, hs₁, heq₁, h₁⟩ :=
        putMember_bind_inv hs (member.withStatus request) h hids
      have hcommitted := audit_inv hs₁ h₁
      rw [heq₁] at hcommitted
      exact ⟨_, .setMember hadmin hmember hversion, hcommitted⟩

theorem setStatus_runs (identity : Identity) (kind identifier : String) (request : StatusUpdate) :
    Runs a store (.setStatus identity kind identifier request)
      (setStatus a identity kind identifier request store) := by
  by_cases hkind : kind ≠ "organizations" ∧ kind ≠ "users"
  · unfold setStatus
    rw [if_pos hkind]
    exact Or.inl ⟨_, rfl⟩
  · rw [not_and_or, not_not, not_not] at hkind
    rcases hkind with rfl | rfl
    · exact setStatus_organizations_runs hs a identity identifier request
    · exact setStatus_users_runs hs a identity identifier request

theorem revokeInvitation_runs (identity : Identity) (identifier : String)
    (request : InvitationRevoke) :
    Runs a store (.revokeInvitation identity identifier request)
      (revokeInvitation a identity identifier request store) := by
  refine runs_transact fun x store' h => ?_
  obtain ⟨admin, hadmin, h⟩ := requireAdmin_bind_inv hs h
  have hget := h.get_bind_inv
  rw [hs.get?_invitation] at hget
  cases hinvitation : (registry store).invitation identifier with
  | none =>
    rw [hinvitation] at hget
    exact hget.raise_inv.elim
  | some invitation =>
    rw [hinvitation] at hget
    obtain ⟨invitation', hvalid, h⟩ := hget.ofExcept_bind_inv
    rw [Invitation.modelValidate_modelDump, Except.ok.injEq] at hvalid
    subst hvalid
    obtain ⟨hrefused, h⟩ := raiseIf_bind_inv h
    obtain ⟨store₁, hs₁, heq₁, h₁⟩ := putInvitation_bind_inv hs h
    have hcommitted := audit_inv hs₁ h₁
    rw [heq₁] at hcommitted
    simp only [Bool.or_eq_false_iff, decide_eq_false_iff_not, ne_eq, not_not, not_le,
      Option.isSome_eq_false_iff, Option.isNone_iff_eq_none] at hrefused
    obtain ⟨⟨⟨hversion, hrevoked⟩, hredeemed⟩, hunexpired⟩ := hrefused
    exact ⟨_, .revokeInvitation hadmin hinvitation hversion hrevoked hredeemed hunexpired, hcommitted⟩

theorem updateMembership_runs (identity : Identity) (organizationId identifier : String)
    (request : MembershipUpdate) :
    Runs a store (.updateMembership identity organizationId identifier request)
      (updateMembership a identity organizationId identifier request store) := by
  refine runs_transact fun x store' h => ?_
  obtain ⟨admin, hadmin, h⟩ := requireAdmin_bind_inv hs h
  have hget := h.get_bind_inv.get_bind_inv
  cases hdocument : store.get? (membersPath organizationId identifier) with
  | none =>
    rw [hdocument] at hget
    exact hget.raise_inv.elim
  | some document =>
    cases horg : store.get? (organizationPath organizationId) with
    | none =>
      rw [hdocument, horg] at hget
      exact hget.raise_inv.elim
    | some org =>
      rw [hdocument, horg] at hget
      rcases hs.under_organizations hdocument with
        ⟨organization, htext, -⟩ | ⟨id, key, member, htext, rfl, hmember⟩
      · exact (identifier_ne_members _ _ _ htext.symm).elim
      · obtain ⟨member', hvalid, h⟩ := hget.ofExcept_bind_inv
        rw [Membership.modelValidate_modelDump, Except.ok.injEq] at hvalid
        subst hvalid
        have hread := readUser_bind_inv hs h
        cases huser : (registry store).user (userKey member.subject.1) with
        | none =>
          rw [huser] at hread
          exact hread.raise_inv.elim
        | some user =>
          rw [huser] at hread
          obtain ⟨hrefused, h⟩ := raiseIf_bind_inv hread
          obtain ⟨hversion, h⟩ := raiseIf_bind_inv h
          simp only [Bool.or_eq_false_iff, decide_eq_false_iff_not, ne_eq, not_not,
            Bool.not_eq_false'] at hrefused hversion
          obtain ⟨⟨⟨hid, hkey⟩, hself⟩, hjoined⟩ := hrefused
          -- the checks pin the path down
          obtain ⟨hmemberId, hmemberKey⟩ := hs.member_ids hmember
          subst hmemberId hid
          obtain rfl : identifier = key := hkey.symm.trans hmemberKey
          rw [hs.get?_organization] at horg
          obtain ⟨organization, horganization, rfl⟩ := Option.map_eq_some_iff.mp horg
          have hin : member.organizationId ∈ user.organizationIds := by
            obtain ⟨id, hmem, heq⟩ := List.mem_map.mp (List.contains_iff_mem.mp hjoined)
            rwa [← Subtype.ext heq]
          have hend : (request.active = true → user.active = true ∧ organization.active = true) ∧
              Does (do
                put (membersPath member.organizationId.1 identifier) (member.update request).modelDump
                audit a identity.subject.1 "membership_updated"
                  (membersPath member.organizationId.1 identifier) : Tx Unit) store x store' := by
            by_cases hactive : request.active = true
            · rw [if_pos hactive] at h
              obtain ⟨huserActive, h⟩ := raiseIf_bind_inv h
              obtain ⟨organization', hvalid, h⟩ := h.ofExcept_bind_inv
              rw [Organization.modelValidate_modelDump, Except.ok.injEq] at hvalid
              subst hvalid
              obtain ⟨horgActive, hput⟩ := raiseIf_bind_inv h
              rw [Bool.not_eq_false'] at huserActive horgActive
              exact ⟨fun _ => ⟨huserActive, horgActive⟩, hput⟩
            · rw [if_neg hactive] at h
              exact ⟨fun hcontra => absurd hcontra hactive, h⟩
          have hids := hs.member_ids hmember
          obtain ⟨store₁, hs₁, heq₁, h₁⟩ := putMember_bind_inv hs (member.update request) hend.2 hids
          have hcommitted := audit_inv hs₁ h₁
          rw [heq₁] at hcommitted
          exact ⟨_, .updateMembership hadmin hmember horganization hself huser hin hversion hend.1,
            hcommitted⟩

omit hs in
/-- The checks of `redeem`, as it writes them. -/
theorem checked_of_checks {identity : Identity} {invitation : Invitation}
    {organization : Organization}
    (hrefused : (invitation.email.1 != Casing.lower identity.email.1 ||
      decide (invitation.expiresAt ≤ a.now) || invitation.redeemedBy.isSome || invitation.revoked ||
      !((registry store).user (userKey invitation.invitedBy.1)).any
        fun inviter => inviter.active && inviter.platformAdmin) = false)
    (horganization : (registry store).organization invitation.organizationId = some organization)
    (hactive : (!organization.active) = false)
    (hadmitted : (((registry store).user (userKey identity.subject.1)).any (fun user => !user.active) ||
      (((registry store).member invitation.organizationId (userKey identity.subject.1)).map
        Membership.modelDump).isSome) = false) :
    Checked (registry store) a identity invitation := by
  simp only [Bool.or_eq_false_iff, bne_eq_false_iff_eq, decide_eq_false_iff_not, not_le,
    Option.isSome_eq_false_iff, Option.isNone_iff_eq_none, Bool.not_eq_false', Option.any_eq_true,
    Bool.and_eq_true, Option.map_eq_none_iff] at hrefused hactive hadmitted
  obtain ⟨⟨⟨⟨hemail, hunexpired⟩, hunredeemed⟩, hunrevoked⟩, inviter, hinviter, hadmin⟩ := hrefused
  have huser : ((registry store).userOf identity.subject).active = true := by
    unfold Registry.userOf
    cases hfound : (registry store).user (userKey identity.subject.1) with
    | none => rfl
    | some user =>
      rw [hfound, Option.any_some, Bool.not_eq_false'] at hadmitted
      exact hadmitted.1
  exact ⟨hemail, hunexpired, hunredeemed, hunrevoked, ⟨inviter, hinviter, hadmin⟩,
    ⟨organization, horganization, hactive⟩, huser, hadmitted.2⟩

theorem redeemOperation_runs (identity : Identity) (token : String) :
    Runs a store (.redeem identity token)
      ((redeemOperation a identity token).transact a.faults store) := by
  refine runs_transact fun x store' h => ?_
  have hget := h.get_bind_inv
  rw [hs.get?_invitation] at hget
  cases hinvitation : (registry store).invitation (Sha256.hexdigest token) with
  | none =>
    rw [hinvitation] at hget
    exact hget.raise_inv.elim
  | some invitation =>
    rw [hinvitation] at hget
    obtain ⟨invitation', hvalid, h⟩ := hget.ofExcept_bind_inv
    rw [Invitation.modelValidate_modelDump, Except.ok.injEq] at hvalid
    subst hvalid
    have hread := (readUser_bind_inv hs (readUser_bind_inv hs h)).get_bind_inv.get_bind_inv
    rw [hs.get?_organization, memberPath, hs.get?_member] at hread
    obtain ⟨hrefused, h⟩ := raiseIf_bind_inv hread
    cases horganization : (registry store).organization invitation.organizationId with
    | none =>
      rw [horganization] at h
      exact h.raise_inv.elim
    | some organization =>
      rw [horganization] at h
      obtain ⟨organization', hvalid, h⟩ := h.ofExcept_bind_inv
      rw [Organization.modelValidate_modelDump, Except.ok.injEq] at hvalid
      subst hvalid
      obtain ⟨hactive, h⟩ := raiseIf_bind_inv h
      obtain ⟨hadmitted, h⟩ := raiseIf_bind_inv h
      obtain ⟨updated, hvalid, h⟩ := h.ofExcept_bind_inv
      obtain ⟨hroom, rfl⟩ := modelValidate_joinOf hvalid
      have hredeemable : Redeemable (registry store) a identity invitation :=
        (checked_of_checks a hrefused horganization hactive hadmitted).redeemable hroom
      have hsubject := hs.userOf_subject identity.subject
      obtain ⟨store₁, hs₁, heq₁, h₁⟩ := putUser_bind_inv hs h hsubject
      obtain ⟨store₂, hs₂, heq₂, h₂⟩ :=
        putMember_bind_inv hs₁ (invitation.member identity.subject) h₁ ⟨rfl, rfl⟩
      obtain ⟨store₃, hs₃, heq₃, h₃⟩ := putInvitation_bind_inv hs₂ h₂
      have hcommitted := audit_inv hs₃ h₃
      rw [heq₃, heq₂, heq₁] at hcommitted
      exact ⟨_, .redeem hinvitation hredeemable, hcommitted⟩

theorem setAdministrator_runs (identity : Identity) (identifier : String) (request : StatusUpdate) :
    Runs a store (.setAdministrator identity identifier request)
      (setAdministrator a identity identifier request store) := by
  refine runs_transact fun x store' h => ?_
  obtain ⟨admin, hadmin, h⟩ := requireAdmin_bind_inv hs h
  obtain ⟨howner, h⟩ := raiseIf_bind_inv h
  have hget := h.get_bind_inv
  rw [hs.get?_user] at hget
  cases huser : (registry store).user identifier with
  | none =>
    rw [huser] at hget
    exact hget.raise_inv.elim
  | some target =>
    rw [huser] at hget
    obtain ⟨target', hvalid, h⟩ := hget.ofExcept_bind_inv
    rw [User.modelValidate_modelDump, Except.ok.injEq] at hvalid
    subst hvalid
    obtain ⟨hrefused, h⟩ := raiseIf_bind_inv h
    obtain ⟨hversion, h⟩ := raiseIf_bind_inv h
    have hsubject := hs.user_subject huser
    obtain ⟨store₁, hs₁, heq₁, h₁⟩ := putUser_bind_inv hs h hsubject
    have hcommitted := audit_inv hs₁ h₁
    rw [heq₁] at hcommitted
    simp only [Bool.or_eq_false_iff, Bool.not_eq_false', decide_eq_false_iff_not, ne_eq,
      not_not] at howner hrefused hversion
    exact ⟨_, .setAdministrator hadmin howner huser hrefused.1 hrefused.2 hversion, hcommitted⟩

theorem recordRejection_runs (actor reason : String) :
    Runs a store (.recordRejection actor reason) (recordRejection a actor reason store) :=
  runs_transact fun _ _ h => ⟨_, .recordRejection, audit_inv hs h⟩

end Runs

end Operations

end ChangeOps.Admission
