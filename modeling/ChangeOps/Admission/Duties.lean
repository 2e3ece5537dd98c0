import ChangeOps.Admission.Workspaces

/-!
# ChangeOps.Admission — who grants a role

A role comes from the inviter of the invitation that was redeemed, or from the caller of the last
update. `update_membership` refuses the member as its caller; `redeem` does not ask whether the
inviter redeems. So the roles are granted by others exactly as long as no inviter redeems an own
invitation.
-/

namespace ChangeOps.Admission

section Duties

variable [Sha256] [Casing]

/-- Who grants the role of the membership at a key by the event, if the event does. -/
def grantedBy (organizationId : Identifier) (key : String) (event : Event) (history : History) :
    Option Text :=
  match event.call with
  | .updateMembership identity id identifier _ =>
    if id = organizationId.1 ∧ identifier = key ∧ Succeeds event history then some identity.subject
    else none
  | .redeem _ token =>
    if ((registry (after history)).member organizationId key).isNone = true ∧
        ((registry (after (event :: history))).member organizationId key).isSome = true then
      ((registry (after history)).invitation (Sha256.hexdigest token)).map (·.invitedBy)
    else none
  | _ => none

/-- Who has granted the current role. -/
def grantor (organizationId : Identifier) (key : String) : History → Option Text
  | [] => none
  | event :: history => (grantedBy organizationId key event history).or
      (grantor organizationId key history)

/-- Every current role was granted by somebody else than the member. -/
def Separated (history : History) : Prop :=
  ∀ organizationId key member, (registry (after history)).member organizationId key = some member →
    ∃ actor, grantor organizationId key history = some actor ∧ actor ≠ member.subject

/-- The inviter redeems the invitation. -/
def SelfRedeems (event : Event) (history : History) : Prop :=
  ∃ identity token invitation, event.call = .redeem identity token ∧
    Redeems event.ambient (registry (after history)) identity token invitation ∧
    invitation.invitedBy = identity.subject

theorem grantedBy_of_update {organizationId : Identifier} {key : String} {event : Event}
    {history : History} {identity : Identity} {request : MembershipUpdate}
    (hcall : event.call = .updateMembership identity organizationId.1 key request)
    (h : Succeeds event history) :
    grantedBy organizationId key event history = some identity.subject := by
  unfold grantedBy
  rw [hcall]
  exact if_pos ⟨rfl, rfl, h⟩

/-- The event grants a role: as an update by another, or as a redemption. -/
theorem grantedBy_cases {organizationId : Identifier} {key : String} {event : Event}
    {history : History} {actor : Text}
    (h : grantedBy organizationId key event history = some actor) :
    (∃ identity request, event.call = .updateMembership identity organizationId.1 key request ∧
      Succeeds event history ∧ actor = identity.subject) ∨
    ∃ identity token invitation, event.call = .redeem identity token ∧
      (registry (after history)).member organizationId key = none ∧
      after (event :: history) ≠ after history ∧
      (registry (after history)).invitation (Sha256.hexdigest token) = some invitation ∧
      actor = invitation.invitedBy := by
  unfold grantedBy at h
  split at h
  · next identity id identifier request hcall =>
    split_ifs at h with hcond
    obtain ⟨rfl, rfl, hsucceeds⟩ := hcond
    exact Or.inl ⟨identity, request, hcall, hsucceeds, (Option.some.inj h).symm⟩
  · next identity token hcall =>
    split_ifs at h with hcond
    obtain ⟨invitation, hstored, hactor⟩ := Option.map_eq_some_iff.mp h
    have hnone := Option.isNone_iff_eq_none.mp hcond.1
    refine Or.inr ⟨identity, token, invitation, hcall, hnone, ?_, hstored, hactor.symm⟩
    intro hsame
    rw [hsame, hnone] at hcond
    cases hcond.2
  · cases h

/-- Where the event grants no role, the membership stands as before, but for its status. -/
theorem member_of_grantedBy_none {organizationId : Identifier} {key : String} {event : Event}
    {history : History} (h : grantedBy organizationId key event history = none) {member : Membership}
    (hmember : (registry (after (event :: history))).member organizationId key = some member) :
    ∃ before, (registry (after history)).member organizationId key = some before ∧
      before.subject = member.subject := by
  rcases after_cons event history with ⟨hsame, -⟩ | ⟨R', heffect, ⟨-, audit, -, heq⟩, hreturns⟩
  · rw [hsame] at hmember
    exact ⟨member, hmember, rfl⟩
  · have hnow := hmember
    rw [heq, Registry.putAudit_member] at hmember
    rcases heffect.member_cases organizationId key with hsame |
      ⟨identity, token, invitation, hcall, hstored, -, -, -, hnone, hwritten⟩ |
      ⟨identity, request, admin, before, -, -, hbefore, -, hwritten⟩ |
      ⟨identity, request, admin, before, hcall, -, -, -, -, -⟩
    · rw [hsame] at hmember
      exact ⟨member, hmember, rfl⟩
    · -- a redemption that creates the membership grants its role
      have hcreated : grantedBy organizationId key event history = some invitation.invitedBy := by
        unfold grantedBy
        rw [hcall]
        dsimp only
        rw [hnone, hnow, hstored]
        rfl
      rw [hcreated] at h
      cases h
    · rw [hwritten, Option.some.injEq] at hmember
      subst hmember
      exact ⟨before, hbefore, rfl⟩
    · have hreturn : Succeeds event history := hreturns fun _ _ h => by
        rw [hcall] at h
        cases h
      rw [grantedBy_of_update hcall hreturn] at h
      cases h

/-- A membership that a redemption creates is that of its caller. -/
theorem member_of_redeem {event : Event} {history : History} {identity : Identity} {token : String}
    (hcall : event.call = .redeem identity token) {organizationId : Identifier} {key : String}
    (hnone : (registry (after history)).member organizationId key = none) {member : Membership}
    (hmember : (registry (after (event :: history))).member organizationId key = some member) :
    member.subject = identity.subject := by
  rcases after_cons event history with ⟨hsame, -⟩ | ⟨R', heffect, ⟨-, audit, -, heq⟩, -⟩
  · rw [hsame, hnone] at hmember
    cases hmember
  · rw [heq, Registry.putAudit_member] at hmember
    rcases heffect.member_cases organizationId key with hsame |
      ⟨identity', token', invitation, hcall', -, -, -, -, -, hwritten⟩ |
      ⟨identity', request, admin, before, -, -, hbefore, -⟩ |
      ⟨identity', request, admin, before, -, -, hbefore, -⟩
    · rw [hsame, hnone] at hmember
      cases hmember
    · rw [hcall, Call.redeem.injEq] at hcall'
      rw [hwritten, Option.some.injEq] at hmember
      rw [← hmember, hcall'.1]
      rfl
    · rw [hnone] at hbefore
      cases hbefore
    · rw [hnone] at hbefore
      cases hbefore

/-- One more event separates the roles, unless an inviter redeems. -/
theorem Separated.cons {event : Event} {history : History} (h : Separated history)
    (hself : ¬ SelfRedeems event history) : Separated (event :: history) := by
  intro organizationId key member hmember
  cases hgranted : grantedBy organizationId key event history with
  | none =>
    obtain ⟨before, hbefore, hsubject⟩ := member_of_grantedBy_none hgranted hmember
    obtain ⟨actor, hactor, hother⟩ := h _ _ _ hbefore
    refine ⟨actor, ?_, hsubject ▸ hother⟩
    rw [grantor, hgranted, Option.none_or, hactor]
  | some actor =>
    refine ⟨actor, by rw [grantor, hgranted]; rfl, ?_⟩
    rcases grantedBy_cases hgranted with ⟨identity, request, hcall, hsucceeds, rfl⟩ |
      ⟨identity, token, invitation, hcall, hnone, hchanged, hstored, rfl⟩
    · obtain ⟨R', heffect, -, audit, -, heq⟩ := hsucceeds.effect
      rw [hcall] at heffect
      obtain ⟨before, -, hother, hwritten⟩ := heffect.of_updateMembership
      rw [heq, Registry.putAudit_member, hwritten, Option.some.injEq] at hmember
      rw [← hmember]
      exact hother.symm
    · obtain ⟨invitation', hredeems⟩ := (after_redeem hcall).resolve_left hchanged
      have hsame := hredeems.stored
      rw [hstored, Option.some.injEq] at hsame
      subst hsame
      rw [member_of_redeem hcall hnone hmember]
      exact fun hinviter => hself ⟨identity, token, invitation, hcall, hredeems, hinviter⟩

/-- An inviter that redeems has granted the own role. -/
theorem SelfRedeems.not_separated {event : Event} {history : History} (h : SelfRedeems event history) :
    ¬ Separated (event :: history) := by
  obtain ⟨identity, token, invitation, hcall, hredeems, hinviter⟩ := h
  intro hseparated
  have hcreated := hredeems.creates hcall
  obtain ⟨actor, hactor, hother⟩ := hseparated _ _ _ hcreated
  have hgranted : grantedBy invitation.organizationId (userKey identity.subject.1) event history =
      some invitation.invitedBy := by
    unfold grantedBy
    rw [hcall]
    dsimp only
    rw [hredeems.redeemable.absent, hcreated, hredeems.stored]
    rfl
  rw [grantor, hgranted, Option.some_or, Option.some.injEq] at hactor
  apply hother
  rw [← hactor, hinviter]
  rfl

theorem separated_nil : Separated [] := by
  intro organizationId key member hmember
  cases hmember

/-- **Separation of duties.** In a run, every current role is always one that somebody else has
granted exactly if no inviter redeems an own invitation. -/
theorem separated_iff (history : History) :
    (∀ {later earlier}, history = later ++ earlier → Separated earlier) ↔
      ∀ {later event earlier}, history = later ++ event :: earlier → ¬ SelfRedeems event earlier := by
  constructor
  · rintro h later event earlier rfl hself
    exact hself.not_separated (h rfl)
  · intro h later earlier heq
    subst heq
    induction earlier generalizing later with
    | nil => exact separated_nil
    | cons event earlier ih =>
      have hbefore : Separated earlier := by
        refine @ih (later ++ [event]) ?_
        intro later' event' earlier' heq
        rw [List.append_assoc] at heq
        exact h heq
      exact hbefore.cons (h rfl)

end Duties

/-! ## An inviter redeems -/

open scoped Admission.Demo

namespace Demo

/-- The owner invites the own address as an administrator of the organization. -/
def inviteSelf : Event :=
  ⟨.invite owner ⟨owner.email, organizationId, .ORGANIZATION_ADMIN⟩, ambient '2' isHexDigit_two⟩

def redeemSelf : Event := ⟨.redeem owner token, ambient '3' isHexDigit_three⟩

def selfInvited : History := [inviteSelf, create, bootstrap]

end Demo

theorem selfInvited_not_separated : ¬ Separated (Demo.redeemSelf :: Demo.selfInvited) := by
  have hok : ((redeemOperation Demo.redeemSelf.ambient Demo.owner Demo.token).transact
      Demo.redeemSelf.ambient.faults (after Demo.selfInvited)).1 = .ok () := by decide +kernel
  have hinviter : ((registry (after Demo.selfInvited)).invitation
      (Sha256.hexdigest Demo.token)).map (·.invitedBy) = some Demo.owner.subject := by decide +kernel
  obtain ⟨invitation, hredeems⟩ := (redeemOperation_ok_iff (shaped_after Demo.selfInvited)).mp hok
  rw [hredeems.stored, Option.map_some, Option.some.injEq] at hinviter
  have hself : SelfRedeems Demo.redeemSelf Demo.selfInvited :=
    ⟨Demo.owner, Demo.token, invitation, rfl, hredeems, hinviter⟩
  exact hself.not_separated

end ChangeOps.Admission
