import ChangeOps.Admission.History

/-!
# ChangeOps.Admission — membership, stored twice

A user's record lists the organizations of which there is a membership document, each once. The
two copies are only ever written together, by `redeem`; every other operation leaves the list as
it is and the documents where they are.
-/

namespace ChangeOps.Admission

section Enrolment

/-- The organizations in the record at a key. -/
def Registry.joined (R : Registry) (key : String) : List Identifier :=
  ((R.user key).map (·.organizationIds)).getD []

theorem Registry.mem_joined {R : Registry} {key : String} {organizationId : Identifier} :
    organizationId ∈ R.joined key ↔
      ∃ user, R.user key = some user ∧ organizationId ∈ user.organizationIds := by
  unfold joined
  cases R.user key with
  | none => simp
  | some user => simp

theorem Registry.joined_of_some {R : Registry} {key : String} {user : User}
    (h : R.user key = some user) : R.joined key = user.organizationIds := by
  unfold joined
  rw [h]
  rfl

theorem Registry.joined_putUser (R : Registry) (key key' : String) (user : User) :
    (R.putUser key user).joined key' =
      if key' = key then user.organizationIds else R.joined key' := by
  unfold joined
  rw [putUser_user, Function.update_apply]
  split_ifs <;> rfl

/-- An update of a user that leaves the list as it is. -/
theorem Registry.joined_putUser_same {R : Registry} {key : String} {user before : User}
    (hget : R.user key = some before) (h : user.organizationIds = before.organizationIds) :
    (R.putUser key user).joined = R.joined := by
  funext key'
  rw [joined_putUser]
  split_ifs with hkey
  · rw [hkey, joined_of_some hget, h]
  · rfl

/-- The two copies of the memberships agree. -/
structure Enrolled (R : Registry) : Prop where
  member_iff : ∀ organizationId key,
    organizationId ∈ R.joined key ↔ (R.member organizationId key).isSome = true
  nodup : ∀ key, (R.joined key).Nodup
  organization : ∀ {organizationId key}, (R.member organizationId key).isSome = true →
    (R.organization organizationId).isSome = true

/-- Registries with the same lists, the same memberships and no fewer organizations. -/
theorem Enrolled.of_same {R R' : Registry} (hR : Enrolled R) (hjoined : R'.joined = R.joined)
    (hmember : ∀ organizationId key,
      (R'.member organizationId key).isSome = (R.member organizationId key).isSome)
    (horganization : ∀ organizationId, (R.organization organizationId).isSome = true →
      (R'.organization organizationId).isSome = true) : Enrolled R' := by
  constructor
  · intro organizationId key
    rw [hjoined, hmember, hR.member_iff]
  · intro key
    rw [hjoined]
    exact hR.nodup key
  · intro organizationId key hsome
    rw [hmember] at hsome
    exact horganization organizationId (hR.organization hsome)

/-- A membership that is rewritten was there. -/
theorem Registry.isSome_putMember {R : Registry} {organizationId : Identifier} {key : String}
    {member : Membership} (h : R.member organizationId key = some member) (member' : Membership)
    (organizationId' : Identifier) (key' : String) :
    ((R.putMember organizationId key member').member organizationId' key').isSome =
      (R.member organizationId' key').isSome := by
  rw [putMember_apply]
  split_ifs with hsite
  · rw [hsite.1, hsite.2, h]
    rfl
  · rfl

theorem Registry.isSome_putOrganization {R : Registry} {organization : Organization}
    {organizationId : Identifier} (h : (R.organization organizationId).isSome = true) :
    ((R.putOrganization organization).organization organizationId).isSome = true := by
  rw [putOrganization_organization, Function.update_apply]
  split_ifs
  · rfl
  · exact h

/-- The one way into both copies. -/
theorem Enrolled.enrol {R R' : Registry} (hR : Enrolled R) {organizationId : Identifier}
    {key : String} (member : Membership) (habsent : R.member organizationId key = none)
    (horganization : (R.organization organizationId).isSome = true)
    (hjoined : ∀ key', R'.joined key' =
      if key' = key then R.joined key ++ [organizationId] else R.joined key')
    (hmember : ∀ organizationId' key', R'.member organizationId' key' =
      if organizationId' = organizationId ∧ key' = key then some member
      else R.member organizationId' key')
    (hsame : R'.organization = R.organization) : Enrolled R' := by
  have hnew : organizationId ∉ R.joined key := by
    rw [hR.member_iff, habsent]
    exact Bool.false_ne_true
  constructor
  · intro organizationId' key'
    rw [hjoined, hmember]
    by_cases hkey : key' = key
    · subst hkey
      by_cases hid : organizationId' = organizationId
      · simp [hid]
      · simp [hid, hR.member_iff]
    · simp [hkey, hR.member_iff]
  · intro key'
    rw [hjoined]
    split_ifs
    · rw [List.nodup_append]
      refine ⟨hR.nodup key, List.nodup_singleton _, ?_⟩
      intro x hx y hy
      rw [List.mem_singleton.mp hy]
      rintro rfl
      exact hnew hx
    · exact hR.nodup key'
  · intro organizationId' key' hsome
    rw [hsame]
    rw [hmember] at hsome
    split_ifs at hsome with hsite
    · rw [hsite.1]
      exact horganization
    · exact hR.organization hsome

section Step

variable [Sha256] [Casing] {a : Ambient} {R R' : Registry} {call : Call}

omit [Casing] in
theorem Registry.joined_userOf (R : Registry) (subject : Text) :
    (R.userOf subject).organizationIds = R.joined (userKey subject.1) := by
  cases huser : R.user (userKey subject.1) with
  | none =>
    rw [userOf_of_none huser, joined, huser]
    rfl
  | some user => rw [userOf_of_some huser, joined_of_some huser]

theorem Enrolled.step (hR : Enrolled R) (h : Effect a R call R') : Enrolled R' := by
  cases h with
  | @bootstrapOwner subject hbootstrap hnone =>
    refine hR.of_same ?_ (fun _ _ => rfl) (fun _ h => h)
    show (R.putUser (userKey subject) (User.first subject)).joined = R.joined
    funext key'
    rw [Registry.joined_putUser]
    split_ifs with hkey
    · rw [hkey, Registry.joined, hnone]
      rfl
    · rfl
  | createOrganization =>
    exact hR.of_same rfl (fun _ _ => rfl) (fun _ h => Registry.isSome_putOrganization h)
  | invite => exact hR.of_same rfl (fun _ _ => rfl) (fun _ h => h)
  | @redeem identity token invitation hinvitation hredeemable =>
    obtain ⟨organization, horganization, -⟩ := hredeemable.organization
    refine hR.enrol (invitation.member identity.subject) hredeemable.absent ?_ ?_ ?_ rfl
    · rw [horganization]
      rfl
    · intro key'
      rw [← Registry.joined_userOf]
      exact Registry.joined_putUser _ _ _ _
    · exact fun organizationId' key' => Registry.putMember_apply _ _ _ _ _ _
  | setOrganization =>
    exact hR.of_same rfl (fun _ _ => rfl) (fun _ h => Registry.isSome_putOrganization h)
  | setMember hadmin hmember =>
    exact hR.of_same rfl (Registry.isSome_putMember hmember _) (fun _ h => h)
  | setUser hadmin huser =>
    exact hR.of_same (Registry.joined_putUser_same huser rfl) (fun _ _ => rfl) (fun _ h => h)
  | revokeInvitation => exact hR.of_same rfl (fun _ _ => rfl) (fun _ h => h)
  | updateMembership hadmin hmember =>
    exact hR.of_same rfl (Registry.isSome_putMember hmember _) (fun _ h => h)
  | setAdministrator hadmin howner htarget =>
    exact hR.of_same (Registry.joined_putUser_same htarget rfl) (fun _ _ => rfl) (fun _ h => h)
  | recordRejection => exact hR

theorem enrolled_after (history : History) : Enrolled (registry (after history)) := by
  have hempty : Enrolled (registry .empty) := by
    constructor
    · intro organizationId key
      constructor
      · intro h
        cases h
      · intro h
        cases h
    · exact fun _ => List.nodup_nil
    · intro organizationId key h
      cases h
  exact registry_induction hempty (fun _ _ _ h => ⟨h.1, h.2, h.3⟩) (fun _ hR h => hR.step h) history

/-- **Membership is stored twice, alike.** The record of a subject lists an organization exactly
when there is a membership document of the subject in it; it lists it once; and that document is
of this subject, in this organization, which has a document. -/
theorem organizationIds_iff_member (hinjective : Function.Injective userKey) (history : History)
    (subject : String) (organizationId : Identifier) :
    ((∃ user, (registry (after history)).user (userKey subject) = some user ∧
        organizationId ∈ user.organizationIds) ↔
      ∃ document, (after history).get? (memberPath organizationId.1 subject) = some document) ∧
    (∀ {user}, (registry (after history)).user (userKey subject) = some user →
      user.organizationIds.Nodup) ∧
    ∀ {document}, (after history).get? (memberPath organizationId.1 subject) = some document →
      (∃ member, Membership.modelValidate document = .ok member ∧ member.subject.1 = subject ∧
        member.organizationId = organizationId) ∧
      ∃ organization, (after history).get? (organizationPath organizationId.1) =
        some (Organization.modelDump organization) := by
  have hs := shaped_after history
  have hR := enrolled_after history
  have hdocument : ∀ document,
      (after history).get? (memberPath organizationId.1 subject) = some document ↔
        ∃ member, (registry (after history)).member organizationId (userKey subject) = some member ∧
          member.modelDump = document := by
    intro document
    rw [memberPath, hs.get?_member, Option.map_eq_some_iff]
  refine ⟨?_, ?_, ?_⟩
  · rw [← Registry.mem_joined, hR.member_iff, Option.isSome_iff_exists]
    constructor
    · rintro ⟨member, hmember⟩
      exact ⟨_, (hdocument _).mpr ⟨member, hmember, rfl⟩⟩
    · rintro ⟨document, hget⟩
      obtain ⟨member, hmember, -⟩ := (hdocument document).mp hget
      exact ⟨member, hmember⟩
  · intro user huser
    rw [← Registry.joined_of_some huser]
    exact hR.nodup _
  · intro document hget
    obtain ⟨member, hmember, rfl⟩ := (hdocument document).mp hget
    obtain ⟨hid, hkey⟩ := hs.member_ids hmember
    refine ⟨⟨member, member.modelValidate_modelDump, hinjective hkey, hid⟩, ?_⟩
    obtain ⟨organization, horganization⟩ := Option.isSome_iff_exists.mp
      (hR.organization (Option.isSome_iff_exists.mpr ⟨member, hmember⟩))
    refine ⟨organization, ?_⟩
    rw [hs.get?_organization, horganization]
    rfl

end Step

open scoped Admission.Demo

/-- The organization of the example is listed, since there is a membership document. -/
theorem alice_joined :
    ∃ user, (registry (after Demo.history)).user (userKey "alice") = some user ∧
      Demo.organizationId ∈ user.organizationIds := by
  have hdocument : ((after Demo.history).get? (memberPath Demo.organizationId.1 "alice")).isSome =
      true := by decide +kernel
  exact (organizationIds_iff_member Demo.userKey_injective Demo.history "alice"
    Demo.organizationId).1.mpr (Option.isSome_iff_exists.mp hdocument)

end Enrolment

end ChangeOps.Admission
