import ChangeOps.Admission.History

/-!
# ChangeOps.Admission — the life of an invitation

An invitation is stored once, under the digest of a token that is drawn anew. Its terms never
change; it is redeemed or revoked, not both, and then stays as it is; and its redemption creates
one membership, where there was none. Attempts that race are serialized, so all of this is about
any order of calls.
-/

namespace ChangeOps.Admission

section Invitations

variable [Sha256]

/-- The digest under which the event stores an invitation. -/
def Event.tokenHash? (event : Event) : Option String :=
  match event.call with
  | .invite _ _ => some (Sha256.hexdigest event.ambient.token)
  | _ => none

/-- No two invitations have drawn tokens with the same digest. -/
def FreshTokens (history : History) : Prop := (history.filterMap Event.tokenHash?).Nodup

theorem FreshTokens.tail {event : Event} {history : History} (h : FreshTokens (event :: history)) :
    FreshTokens history := by
  unfold FreshTokens at h ⊢
  rw [List.filterMap_cons] at h
  cases hhash : event.tokenHash? with
  | none =>
    rw [hhash] at h
    exact h
  | some hash =>
    rw [hhash] at h
    exact h.of_cons

theorem FreshTokens.suffix {later earlier : History} (h : FreshTokens (later ++ earlier)) :
    FreshTokens earlier := by
  induction later with
  | nil => exact h
  | cons event later ih => exact ih h.tail

theorem FreshTokens.notMem {event : Event} {history : History} {identity : Identity}
    {request : InvitationCreate} (h : FreshTokens (event :: history))
    (hcall : event.call = .invite identity request) :
    Sha256.hexdigest event.ambient.token ∉ history.filterMap Event.tokenHash? := by
  have hhash : event.tokenHash? = some (Sha256.hexdigest event.ambient.token) := by
    rw [Event.tokenHash?, hcall]
  unfold FreshTokens at h
  rw [List.filterMap_cons, hhash] at h
  exact (List.nodup_cons.mp h).1

/-- What an invitation offers, and who offers it. -/
def Invitation.SameTerms (now invitation : Invitation) : Prop :=
  now.email = invitation.email ∧ now.organizationId = invitation.organizationId ∧
    now.role = invitation.role ∧ now.invitedBy = invitation.invitedBy ∧
    now.expiresAt = invitation.expiresAt

def Invitation.Closed (invitation : Invitation) : Prop :=
  invitation.redeemedBy ≠ none ∨ invitation.revoked = true

variable [Casing]

/-- An invitation has been stored by an event of the history. -/
theorem tokenHash_mem {history : History} {hash : String} {invitation : Invitation}
    (h : (registry (after history)).invitation hash = some invitation) :
    hash ∈ history.filterMap Event.tokenHash? := by
  induction history generalizing invitation with
  | nil => cases h
  | cons event history ih =>
    have hold : ∀ {invitation}, (registry (after history)).invitation hash = some invitation →
        hash ∈ (event :: history).filterMap Event.tokenHash? := by
      intro invitation hget
      rw [List.filterMap_cons]
      cases event.tokenHash? with
      | none => exact ih hget
      | some hash' => exact List.mem_cons_of_mem _ (ih hget)
    rcases after_cons event history with ⟨hsame, -⟩ | ⟨R', heffect, ⟨-, audit, -, heq⟩, -⟩
    · rw [hsame] at h
      exact hold h
    · rw [heq, Registry.putAudit_invitation] at h
      rcases heffect.invitation_cases hash with hsame | ⟨identity, request, admin, email, hcall, -, hhash, -⟩ |
        ⟨identity, token, before, -, -, hbefore, -⟩ | ⟨identity, request, admin, before, -, -, hbefore, -⟩
      · rw [hsame] at h
        exact hold h
      · rw [List.filterMap_cons, Event.tokenHash?, hcall, hhash]
        exact List.mem_cons_self
      · exact hold hbefore
      · exact hold hbefore

/-- One more event leaves the terms of an invitation, and all of a closed one. -/
theorem invitation_step {event : Event} {history : History} (hfresh : FreshTokens (event :: history))
    {hash : String} {invitation : Invitation}
    (h : (registry (after history)).invitation hash = some invitation) :
    ∃ now : Invitation, (registry (after (event :: history))).invitation hash = some now ∧
      now.SameTerms invitation ∧ (invitation.Closed → now = invitation) := by
  have hsame : ∃ now : Invitation, some invitation = some now ∧ now.SameTerms invitation ∧
      (invitation.Closed → now = invitation) :=
    ⟨invitation, rfl, ⟨rfl, rfl, rfl, rfl, rfl⟩, fun _ => rfl⟩
  rcases after_cons event history with ⟨hstore, -⟩ | ⟨R', heffect, ⟨-, audit, -, heq⟩, -⟩
  · rw [hstore, h]
    exact hsame
  · rw [heq, Registry.putAudit_invitation]
    rcases heffect.invitation_cases hash with hkept | ⟨identity, request, admin, email, hcall, -, hhash, -⟩ |
      ⟨identity, token, before, -, -, hbefore, hredeemable, hwritten⟩ |
      ⟨identity, request, admin, before, -, -, hbefore, -, hrevoked, hredeemed, hwritten⟩
    · rw [hkept, h]
      exact hsame
    · rw [hhash] at h
      exact absurd (tokenHash_mem h) (hfresh.notMem hcall)
    · rw [h, Option.some.injEq] at hbefore
      subst hbefore
      refine ⟨_, hwritten, ⟨rfl, rfl, rfl, rfl, rfl⟩, ?_⟩
      rintro (hclosed | hclosed)
      · exact absurd hredeemable.unredeemed hclosed
      · exact absurd hclosed (Bool.eq_false_iff.mp hredeemable.unrevoked)
    · rw [h, Option.some.injEq] at hbefore
      subst hbefore
      refine ⟨_, hwritten, ⟨rfl, rfl, rfl, rfl, rfl⟩, ?_⟩
      rintro (hclosed | hclosed)
      · exact absurd hredeemed hclosed
      · exact absurd hclosed (Bool.eq_false_iff.mp hrevoked)

/-- An invitation in the long run. -/
theorem invitation_kept {later earlier : History} (hfresh : FreshTokens (later ++ earlier))
    {hash : String} {invitation : Invitation}
    (h : (registry (after earlier)).invitation hash = some invitation) :
    ∃ now : Invitation, (registry (after (later ++ earlier))).invitation hash = some now ∧
      now.SameTerms invitation ∧ (invitation.Closed → now = invitation) := by
  induction later with
  | nil => exact ⟨invitation, h, ⟨rfl, rfl, rfl, rfl, rfl⟩, fun _ => rfl⟩
  | cons event later ih =>
    obtain ⟨middle, hmiddle, hterms, hclosed⟩ := ih hfresh.tail
    obtain ⟨now, hnow, hterms', hclosed'⟩ := invitation_step hfresh hmiddle
    refine ⟨now, hnow, ?_, ?_⟩
    · exact ⟨hterms'.1.trans hterms.1, hterms'.2.1.trans hterms.2.1, hterms'.2.2.1.trans hterms.2.2.1,
        hterms'.2.2.2.1.trans hterms.2.2.2.1, hterms'.2.2.2.2.trans hterms.2.2.2.2⟩
    · intro hclosing
      have hmiddleEq := hclosed hclosing
      rw [hclosed' (hmiddleEq ▸ hclosing), hmiddleEq]

/-- Redeemed and revoked exclude each other. -/
theorem redeemed_or_revoked (history : History) {hash : String} {invitation : Invitation}
    (h : (registry (after history)).invitation hash = some invitation) :
    invitation.redeemedBy = none ∨ invitation.revoked = false := by
  let I : Registry → Prop := fun R => ∀ hash invitation, R.invitation hash = some invitation →
    invitation.redeemedBy = none ∨ invitation.revoked = false
  have hempty : I (registry .empty) := by
    intro hash invitation hget
    cases hget
  have hstep : ∀ {a R call R'}, Placed R → I R → Effect a R call R' → I R' := by
    intro a R call R' _ hR heffect hash invitation hget
    rcases heffect.invitation_cases hash with hkept | ⟨identity, request, admin, email, -, -, -, hwritten⟩ |
      ⟨identity, token, before, -, -, -, hredeemable, hwritten⟩ |
      ⟨identity, request, admin, before, -, -, -, -, -, hredeemed, hwritten⟩
    · exact hR hash invitation (hkept ▸ hget)
    · rw [hwritten, Option.some.injEq] at hget
      subst hget
      exact Or.inl rfl
    · rw [hwritten, Option.some.injEq] at hget
      subst hget
      exact Or.inr hredeemable.unrevoked
    · rw [hwritten, Option.some.injEq] at hget
      subst hget
      exact Or.inl hredeemed
  exact registry_induction (I := I) hempty (fun _ _ _ h => h) hstep history hash invitation h

/-! ## The memberships of an invitation -/

/-- The event redeems the invitation under a digest, and a membership is there that was not. -/
def Creates (earlier : History) (event : Event) (hash : String) (organizationId : Identifier)
    (key : String) : Prop :=
  (∃ identity token, event.call = .redeem identity token ∧ hash = Sha256.hexdigest token) ∧
    (registry (after earlier)).member organizationId key = none ∧
    (registry (after (event :: earlier))).member organizationId key ≠ none

/-- An invitation that creates a membership was open, tells the place, and is closed. -/
theorem Creates.redeems {earlier : History} {event : Event} {hash : String}
    {organizationId : Identifier} {key : String}
    (h : Creates earlier event hash organizationId key) :
    ∃ identity token invitation, event.call = .redeem identity token ∧
      (registry (after earlier)).invitation hash = some invitation ∧
      organizationId = invitation.organizationId ∧ key = userKey identity.subject.1 ∧
      ¬ invitation.Closed ∧
      (registry (after (event :: earlier))).invitation hash =
        some (invitation.redeem identity.subject) := by
  obtain ⟨⟨identity, token, hcall, rfl⟩, hnone, hsome⟩ := h
  rcases after_cons event earlier with ⟨hsame, -⟩ | ⟨R', heffect, ⟨-, audit, -, heq⟩, -⟩
  · rw [hsame] at hsome
    exact absurd hnone hsome
  · rw [heq, Registry.putAudit_member] at hsome
    rw [hcall] at heffect
    cases heffect with
    | @redeem identity token invitation hinvitation hredeemable =>
      have hsite : organizationId = invitation.organizationId ∧ key = userKey identity.subject.1 := by
        by_contra hne
        rw [Registry.putInvitation_member, Registry.putMember_apply, if_neg hne] at hsome
        exact hsome hnone
      refine ⟨identity, token, invitation, hcall, hinvitation, hsite.1, hsite.2, ?_, ?_⟩
      · rintro (hclosed | hclosed)
        · exact hclosed hredeemable.unredeemed
        · exact Bool.eq_false_iff.mp hredeemable.unrevoked hclosed
      · rw [heq]
        exact Function.update_self _ _ _

/-- Inviting, redeeming and revoking leave the memberships that there are. -/
theorem member_kept {event : Event} {history : History}
    (hcall : (∃ identity request, event.call = .invite identity request) ∨
      (∃ identity token, event.call = .redeem identity token) ∨
      ∃ identity hash request, event.call = .revokeInvitation identity hash request)
    {organizationId : Identifier} {key : String} {member : Membership}
    (h : (registry (after history)).member organizationId key = some member) :
    (registry (after (event :: history))).member organizationId key = some member := by
  rcases after_cons event history with ⟨hsame, -⟩ | ⟨R', heffect, ⟨-, audit, -, heq⟩, -⟩
  · rw [hsame]
    exact h
  · rw [heq, Registry.putAudit_member]
    rcases heffect.member_cases organizationId key with hkept |
      ⟨identity, token, invitation, -, -, -, -, -, hnone, -⟩ |
      ⟨identity, request, admin, before, hset, -⟩ | ⟨identity, request, admin, before, hupdate, -⟩
    · rw [hkept]
      exact h
    · rw [hnone] at h
      cases h
    · rcases hcall with ⟨_, _, h'⟩ | ⟨_, _, h'⟩ | ⟨_, _, _, h'⟩ <;>
        · rw [hset] at h'
          cases h'
    · rcases hcall with ⟨_, _, h'⟩ | ⟨_, _, h'⟩ | ⟨_, _, _, h'⟩ <;>
        · rw [hupdate] at h'
          cases h'

/-- **Invitations.** In every order of calls, an invitation keeps its terms; it is redeemed or
revoked but not both, and then stays as it is; it creates at most one membership; and no
membership is written over. -/
theorem invitations_hold {history : History} (hfresh : FreshTokens history) :
    (∀ {later earlier hash invitation}, history = later ++ earlier →
      (registry (after earlier)).invitation hash = some invitation →
      (invitation.redeemedBy = none ∨ invitation.revoked = false) ∧
      ∃ now : Invitation, (registry (after history)).invitation hash = some now ∧
        now.SameTerms invitation ∧ (invitation.Closed → now = invitation)) ∧
    (∀ {later second between first earlier hash organizationId key organizationId' key'},
      history = later ++ second :: (between ++ first :: earlier) →
      Creates earlier first hash organizationId key →
      ¬ Creates (between ++ first :: earlier) second hash organizationId' key') ∧
    (∀ {event earlier hash organizationId key organizationId' key'},
      Creates earlier event hash organizationId key →
      Creates earlier event hash organizationId' key' →
      organizationId' = organizationId ∧ key' = key) ∧
    ∀ {later event earlier}, history = later ++ event :: earlier →
      ((∃ identity request, event.call = .invite identity request) ∨
        (∃ identity token, event.call = .redeem identity token) ∨
        ∃ identity hash request, event.call = .revokeInvitation identity hash request) →
      ∀ {organizationId key member},
        (registry (after earlier)).member organizationId key = some member →
        (registry (after (event :: earlier))).member organizationId key = some member := by
  refine ⟨?_, ?_, ?_, ?_⟩
  · rintro later earlier hash invitation rfl h
    exact ⟨redeemed_or_revoked earlier h, invitation_kept hfresh h⟩
  · rintro later second between first earlier hash organizationId key organizationId' key' rfl hfirst
      hsecond
    obtain ⟨identity, token, invitation, -, -, -, -, -, hredeemed⟩ := hfirst.redeems
    obtain ⟨identity', token', invitation', -, hinvitation', -, -, hopen, -⟩ := hsecond.redeems
    have hfresh' : FreshTokens (between ++ first :: earlier) := hfresh.suffix.tail
    obtain ⟨now, hnow, -, hclosed⟩ := invitation_kept hfresh' hredeemed
    have hredeem : (invitation.redeem identity.subject).Closed := Or.inl (Option.some_ne_none _)
    rw [hinvitation', Option.some.injEq] at hnow
    rw [hnow, hclosed hredeem] at hopen
    exact hopen hredeem
  · intro event earlier hash organizationId key organizationId' key' h h'
    obtain ⟨identity, token, invitation, hcall, hinvitation, hid, hkey, -⟩ := h.redeems
    obtain ⟨identity', token', invitation', hcall', hinvitation', hid', hkey', -⟩ := h'.redeems
    rw [hcall, Call.redeem.injEq] at hcall'
    rw [hinvitation, Option.some.injEq] at hinvitation'
    rw [hid, hid', hkey, hkey', hinvitation', hcall'.1]
    exact ⟨rfl, rfl⟩
  · rintro later event earlier rfl hcall organizationId key member h
    exact member_kept hcall h

end Invitations

open scoped Admission.Demo

theorem Demo.freshTokens : FreshTokens Demo.history := List.nodup_singleton _

/-- The invitation of the example keeps its terms when it is redeemed. -/
theorem alice_invitation :
    ∃ invitation now : Invitation,
      (registry (after Demo.invited)).invitation (Sha256.hexdigest Demo.token) = some invitation ∧
      (registry (after Demo.history)).invitation (Sha256.hexdigest Demo.token) = some now ∧
      now.SameTerms invitation := by
  have hstored : ((registry (after Demo.invited)).invitation
      (Sha256.hexdigest Demo.token)).isSome = true := by decide +kernel
  obtain ⟨invitation, hinvitation⟩ := Option.isSome_iff_exists.mp hstored
  have heq : Demo.history = [Demo.redeem] ++ Demo.invited := rfl
  obtain ⟨-, now, hnow, hterms, -⟩ := (invitations_hold Demo.freshTokens).1 heq hinvitation
  exact ⟨invitation, now, hinvitation, hnow, hterms⟩

end ChangeOps.Admission
