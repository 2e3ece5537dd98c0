import ChangeOps.Admission.History

/-!
# ChangeOps.Admission — who may do what

There is one owner at most, who stays an active administrator; the owner alone appoints and
dismisses administrators; and who is no administrator changes nothing but the own record and what
is redeemed.
-/

namespace ChangeOps.Admission

section Privilege

variable [Sha256] [Casing]

/-! ## The owner -/

/-- What the guards of the operations keep of the owner. -/
structure Owned (R : Registry) : Prop where
  none_before : R.bootstrap = none → ∀ {key user}, R.user key = some user → user.owner = false
  unique : ∀ {key key' user user'}, R.user key = some user → R.user key' = some user' →
    user.owner = true → user'.owner = true → key = key'
  stands : ∀ {key user}, R.user key = some user → user.owner = true →
    user.active = true ∧ user.platformAdmin = true

variable {a : Ambient} {R R' : Registry} {call : Call}

/-- An owner has been one before, unless this is the bootstrap. -/
theorem Owned.of_owner (hR : Owned R) (h : Effect a R call R') {key : String} {user : User}
    (hget : R'.user key = some user) (howner : user.owner = true) :
    (∃ subject, call = .bootstrapOwner subject ∧ key = userKey subject ∧ R.bootstrap = none ∧
      user = User.first subject) ∨
    ∃ before, R.user key = some before ∧ before.owner = true ∧ user.active = true ∧
      user.platformAdmin = true := by
  rcases h.user_cases key with hsame | ⟨subject, hcall, hkey, hnone, -, hwritten⟩ |
    ⟨identity, token, invitation, hredeemable, -, hkey, hwritten⟩ |
    ⟨-, request, -, before, -, -, -, hbefore, -, hwritten⟩ |
    ⟨-, request, -, before, -, -, -, -, hbefore, -, hwritten⟩
  · rw [hsame] at hget
    exact Or.inr ⟨user, hget, howner, hR.stands hget howner⟩
  · rw [hwritten, Option.some.injEq] at hget
    exact Or.inl ⟨subject, hcall, hkey, hnone, hget.symm⟩
  · -- a redemption keeps the flags of the record, and gives none to a new one
    rw [hwritten, Option.some.injEq] at hget
    subst hget hkey
    have hactive := hredeemable.user
    change (R.userOf identity.subject).owner = true at howner
    cases hbefore : R.user (userKey identity.subject.1) with
    | none =>
      rw [Registry.userOf_of_none hbefore] at howner
      cases howner
    | some before =>
      refine Or.inr ⟨before, rfl, ?_⟩
      show before.owner = true ∧ (R.userOf identity.subject).active = true ∧
        (R.userOf identity.subject).platformAdmin = true
      rw [Registry.userOf_of_some hbefore] at howner hactive ⊢
      exact ⟨howner, hactive, (hR.stands hbefore howner).2⟩
  · rw [hwritten, Option.some.injEq] at hget
    subst hget
    exact absurd howner (Bool.eq_false_iff.mp hbefore)
  · rw [hwritten, Option.some.injEq] at hget
    subst hget
    exact absurd howner (Bool.eq_false_iff.mp hbefore)

/-- The bootstrap is done once. -/
theorem Effect.bootstrap_none (h : Effect a R call R') (hnone : R'.bootstrap = none) :
    R.bootstrap = none ∧ ∀ subject, call ≠ .bootstrapOwner subject := by
  cases h with
  | bootstrapOwner => cases hnone
  | createOrganization | invite | redeem | setOrganization | setMember | setUser
  | revokeInvitation | updateMembership | setAdministrator | recordRejection =>
    exact ⟨hnone, fun _ hcall => by cases hcall⟩

theorem Owned.step (hR : Owned R) (h : Effect a R call R') : Owned R' := by
  constructor
  · intro hnone key user hget
    by_contra howner
    rw [Bool.not_eq_false] at howner
    obtain ⟨hbefore, hcall⟩ := h.bootstrap_none hnone
    rcases hR.of_owner h hget howner with ⟨subject, hboot, -⟩ | ⟨before, hget₀, howner₀, -⟩
    · exact hcall subject hboot
    · rw [hR.none_before hbefore hget₀] at howner₀
      cases howner₀
  · intro key key' user user' hget hget' howner howner'
    rcases hR.of_owner h hget howner with ⟨subject, hboot, hkey, hnone, -⟩ | ⟨before, hget₀, howner₀, -⟩
    · rcases hR.of_owner h hget' howner' with
        ⟨subject', hboot', hkey', -, -⟩ | ⟨before', hget₀', howner₀', -⟩
      · rw [hboot, Call.bootstrapOwner.injEq] at hboot'
        rw [hkey, hkey', hboot']
      · rw [hR.none_before hnone hget₀'] at howner₀'
        cases howner₀'
    · rcases hR.of_owner h hget' howner' with
        ⟨subject', -, -, hnone, -⟩ | ⟨before', hget₀', howner₀', -⟩
      · rw [hR.none_before hnone hget₀] at howner₀
        cases howner₀
      · exact hR.unique hget₀ hget₀' howner₀ howner₀'
  · intro key user hget howner
    rcases hR.of_owner h hget howner with ⟨subject, -, -, -, rfl⟩ | ⟨before, -, -, hstands⟩
    · exact ⟨rfl, rfl⟩
    · exact hstands

theorem owned_after (history : History) : Owned (registry (after history)) := by
  have hempty : Owned (registry .empty) := by
    constructor
    · intro _ key user hget
      cases hget
    · intro key key' user user' hget
      cases hget
    · intro key user hget
      cases hget
  exact registry_induction hempty (fun _ _ _ h => ⟨h.1, h.2, h.3⟩) (fun _ hR h => hR.step h) history

/-- An owner remains the owner. -/
theorem Effect.owner_remains (h : Effect a R call R') {key : String} {user : User}
    (hget : R.user key = some user) (howner : user.owner = true) :
    ∃ user', R'.user key = some user' ∧ user'.owner = true := by
  rcases h.user_cases key with hsame | ⟨subject, -, -, -, hnone, -⟩ |
    ⟨identity, token, invitation, hredeemable, -, hkey, hwritten⟩ |
    ⟨-, request, -, before, -, -, hbefore, hnot, -, -⟩ |
    ⟨-, request, -, before, -, -, -, hbefore, hnot, -, -⟩
  · rw [hsame]
    exact ⟨user, hget, howner⟩
  · rw [hnone] at hget
    cases hget
  · subst hkey
    refine ⟨_, hwritten, ?_⟩
    show (R.userOf identity.subject).owner = true
    rw [Registry.userOf_of_some hget]
    exact howner
  · rw [hbefore, Option.some.injEq] at hget
    rw [hget, howner] at hnot
    cases hnot
  · rw [hbefore, Option.some.injEq] at hget
    rw [hget, howner] at hnot
    cases hnot

/-- The record that the bootstrap wrote stands as that of an active administrator for good. -/
theorem owner_stands {event : Event} {earlier : History} {subject : String}
    (hcall : event.call = .bootstrapOwner subject) (h : Succeeds event earlier) (later : History) :
    ∃ user, (registry (after (later ++ event :: earlier))).user (userKey subject) = some user ∧
      user.owner = true ∧ user.active = true ∧ user.platformAdmin = true := by
  have hremains : ∃ user, (registry (after (later ++ event :: earlier))).user (userKey subject) =
      some user ∧ user.owner = true := by
    induction later with
    | nil =>
      obtain ⟨R', heffect, -, audit, -, heq⟩ := h.effect
      rw [List.nil_append, heq]
      rw [hcall] at heffect
      cases heffect with
      | bootstrapOwner => exact ⟨_, Function.update_self _ _ _, rfl⟩
    | cons next later ih =>
      obtain ⟨user, hget, howner⟩ := ih
      rcases after_cons next (later ++ event :: earlier) with
        ⟨hsame, -⟩ | ⟨R', heffect, ⟨-, audit, -, heq⟩, -⟩
      · rw [List.cons_append, hsame]
        exact ⟨user, hget, howner⟩
      · rw [List.cons_append, heq]
        exact heffect.owner_remains hget howner
  obtain ⟨user, hget, howner⟩ := hremains
  exact ⟨user, hget, howner, (owned_after _).stands hget howner⟩

/-! ## What a caller may change -/

omit [Sha256] [Casing] in
/-- The caller of an operation that asks who calls. -/
def Call.identity? : Call → Option Identity
  | .bootstrapOwner _ | .recordRejection _ _ => none
  | .createOrganization identity _ | .invite identity _ | .redeem identity _
  | .setStatus identity _ _ _ | .revokeInvitation identity _ _ | .updateMembership identity _ _ _
  | .setAdministrator identity _ _ => some identity

/-- What a call changes, by the privileges of its caller. -/
structure Respects (R : Registry) (call : Call) (R' : Registry) : Prop where
  /-- The owner alone, with a second factor, makes and unmakes administrators. -/
  platformAdmin : ∀ {key before user}, R.user key = some before → R'.user key = some user →
    user.platformAdmin ≠ before.platformAdmin → ∃ identity request owner,
      call = .setAdministrator identity key request ∧ identity.mfa = true ∧
      R.user (userKey identity.subject.1) = some owner ∧ owner.owner = true
  /-- A new record is not that of an administrator, except that of the bootstrap. -/
  newcomer : ∀ {key user}, R.user key = none → R'.user key = some user →
    user.platformAdmin = true → ∃ subject, call = .bootstrapOwner subject ∧ key = userKey subject
  organization : ∀ {identity}, call.identity? = some identity → (∀ admin, ¬ R.Admin identity admin) →
    R'.organization = R.organization
  /-- No other user's record. -/
  user : ∀ {identity}, call.identity? = some identity → (∀ admin, ¬ R.Admin identity admin) →
    ∀ {key}, key ≠ userKey identity.subject.1 → R'.user key = R.user key
  /-- A redemption creates the own membership and closes the redeemed invitation. -/
  redeems : ∀ {identity}, call.identity? = some identity → (∀ admin, ¬ R.Admin identity admin) →
    (R'.member = R.member ∧ R'.invitation = R.invitation) ∨ ∃ token invitation,
      call = .redeem identity token ∧ R.invitation (Sha256.hexdigest token) = some invitation ∧
      (∀ {organizationId key}, organizationId ≠ invitation.organizationId ∨
        key ≠ userKey identity.subject.1 → R'.member organizationId key = R.member organizationId key) ∧
      ∀ {hash}, hash ≠ Sha256.hexdigest token → R'.invitation hash = R.invitation hash

omit [Casing] in
theorem Respects.refl (R : Registry) (call : Call) : Respects R call R := by
  constructor
  · intro key before user hget hget' hne
    rw [hget, Option.some.injEq] at hget'
    rw [hget'] at hne
    exact absurd rfl hne
  · intro key user hnone hget
    rw [hnone] at hget
    cases hget
  · exact fun _ _ => rfl
  · exact fun _ _ _ _ => rfl
  · exact fun _ _ => Or.inl ⟨rfl, rfl⟩

theorem Effect.respects (h : Effect a R call R') : Respects R call R' := by
  constructor
  · intro key before user hget hget' hne
    rcases h.user_cases key with hsame | ⟨subject, -, -, -, hnone, -⟩ |
      ⟨identity, token, invitation, hredeemable, -, hkey, hwritten⟩ |
      ⟨-, request, -, user₀, -, -, huser, -, -, hwritten⟩ |
      ⟨identity, request, admin, target, hcall, hadmin, howner, -, -, -, -⟩
    · rw [hsame, hget, Option.some.injEq] at hget'
      exact absurd (congrArg User.platformAdmin hget'.symm) hne
    · rw [hnone] at hget
      cases hget
    · subst hkey
      rw [hwritten, Option.some.injEq] at hget'
      rw [← hget'] at hne
      change (R.userOf identity.subject).platformAdmin ≠ _ at hne
      rw [Registry.userOf_of_some hget] at hne
      exact absurd rfl hne
    · rw [hwritten, Option.some.injEq] at hget'
      rw [huser, Option.some.injEq] at hget
      rw [← hget', ← hget] at hne
      exact absurd rfl hne
    · exact ⟨identity, request, admin, hcall, hadmin.2.2.2, hadmin.1, howner⟩
  · intro key user hnone hget hflag
    rcases h.user_cases key with hsame | ⟨subject, hcall, hkey, -, -, -⟩ |
      ⟨identity, token, invitation, hredeemable, -, hkey, hwritten⟩ |
      ⟨-, request, -, user₀, -, -, huser, -, -, -⟩ | ⟨-, request, -, target, -, -, -, htarget, -, -, -⟩
    · rw [hsame, hnone] at hget
      cases hget
    · exact ⟨subject, hcall, hkey⟩
    · subst hkey
      rw [hwritten, Option.some.injEq] at hget
      rw [← hget] at hflag
      change (R.userOf identity.subject).platformAdmin = true at hflag
      rw [Registry.userOf_of_none hnone] at hflag
      cases hflag
    · rw [hnone] at huser
      cases huser
    · rw [hnone] at htarget
      cases htarget
  · intro identity hcaller hnot
    funext organizationId
    rcases h.organization_cases organizationId with hsame | ⟨identity', name, admin, -, rfl, hadmin, -⟩ |
      ⟨identity', request, admin, -, rfl, hadmin, -⟩
    · exact hsame
    · cases hcaller
      exact absurd hadmin (hnot admin)
    · cases hcaller
      exact absurd hadmin (hnot admin)
  · intro identity hcaller hnot key hkey
    rcases h.user_cases key with hsame | ⟨subject, rfl, -⟩ |
      ⟨identity', token, invitation, hredeemable, rfl, hkey', -⟩ |
      ⟨identity', request, admin, -, rfl, hadmin, -⟩ | ⟨identity', request, admin, -, rfl, hadmin, -⟩
    · exact hsame
    · cases hcaller
    · cases hcaller
      exact absurd hkey' hkey
    · cases hcaller
      exact absurd hadmin (hnot admin)
    · cases hcaller
      exact absurd hadmin (hnot admin)
  · intro identity hcaller hnot
    cases h with
    | bootstrapOwner | recordRejection => cases hcaller
    | createOrganization hadmin | invite hadmin | setOrganization hadmin | setMember hadmin
    | setUser hadmin | revokeInvitation hadmin | updateMembership hadmin
    | setAdministrator hadmin =>
      cases hcaller
      exact absurd hadmin (hnot _)
    | @redeem identity' token invitation hinvitation hredeemable =>
      cases hcaller
      refine Or.inr ⟨token, invitation, rfl, hinvitation, ?_, ?_⟩
      · intro organizationId key hother
        rw [Registry.putInvitation_member, Registry.putMember_apply, if_neg, Registry.putUser_member]
        rintro ⟨hid, hkey⟩
        rcases hother with hne | hne
        · exact hne hid
        · exact hne hkey
      · intro hash hhash
        exact Function.update_of_ne hhash _ _

omit [Casing] in
/-- The audit events are no records of the admission. -/
theorem Respects.putAudit (h : Respects R call R') (eventId : Identifier) (document : Document) :
    Respects R call (R'.putAudit eventId document) :=
  ⟨h.platformAdmin, h.newcomer, h.organization, h.user, h.redeems⟩

/-- **The privileges.** After any calls there is one owner at most; the record that the bootstrap
wrote is the owner's, and that of an active administrator, ever after; and each further call
changes what its caller may change. -/
theorem privileges_hold (history : History) :
    (∀ {key key' user user'}, (registry (after history)).user key = some user →
      (registry (after history)).user key' = some user' → user.owner = true →
      user'.owner = true → key = key') ∧
    (∀ {later event earlier subject}, history = later ++ event :: earlier →
      event.call = .bootstrapOwner subject → Succeeds event earlier →
      ∃ user, (registry (after history)).user (userKey subject) = some user ∧
        user.owner = true ∧ user.active = true ∧ user.platformAdmin = true) ∧
    ∀ event : Event,
      Respects (registry (after history)) event.call (registry (after (event :: history))) := by
  refine ⟨(owned_after history).unique, ?_, ?_⟩
  · rintro later event earlier subject rfl hcall h
    exact owner_stands hcall h later
  · intro event
    rcases after_cons event history with ⟨hsame, -⟩ | ⟨R', heffect, ⟨-, audit, -, heq⟩, -⟩
    · rw [hsame]
      exact Respects.refl _ _
    · rw [heq]
      exact heffect.respects.putAudit _ _

end Privilege

end ChangeOps.Admission
